import CallRouting.Settings.Store
import Mathlib.Data.List.Basic

/-!
# Files of a store

A file that was written is found again under the path that it was written to. Writing follows the
components of a path and makes the directories that are missing; finding follows the same components
and asks of each that it leads through a directory. What carries the proof is that all directories
around the place that writing has come to exist, so that a step upward leads to one of them, and
that no directory is ever replaced by something else.
-/

namespace CallRouting.Store

variable {s t : Store}

/-! ## Directories -/

/-- Whether the directories of a store are directories of another one. -/
def Keeps (s t : Store) : Prop := ∀ q, s.isDirectory q = true → t.isDirectory q = true

/-- Whether all directories around a place exist, the place itself included. -/
def Reached (s : Store) (here : List String) : Prop := ∀ q, q <+: here → s.isDirectory q = true

theorem isDirectory_nil (s : Store) : s.isDirectory [] = true := rfl

theorem get?_put_self {path : List String} (hpath : path ≠ []) (e : Entry) :
    (s.put path e).get? path = some e := by
  rw [get?, if_neg (by simpa using hpath), put, List.lookup_cons_self]

theorem get?_put_of_ne {path q : List String} (hq : q ≠ path) (e : Entry) :
    (s.put path e).get? q = s.get? q := by
  rw [get?, get?, put, List.lookup_cons, beq_eq_false_iff_ne.mpr hq]

theorem Reached.here {here : List String} (h : s.Reached here) : s.isDirectory here = true :=
  h here (List.prefix_refl here)

theorem Reached.dropLast {here : List String} (h : s.Reached here) : s.Reached here.dropLast :=
  fun q hq ↦ h q (hq.trans here.dropLast_prefix)

theorem Reached.of_keeps {here : List String} (h : s.Reached here) (hkeeps : s.Keeps t) :
    t.Reached here := fun q hq ↦ hkeeps q (h q hq)

theorem Reached.concat {here : List String} {c : String} (h : s.Reached here)
    (hc : s.isDirectory (here ++ [c]) = true) : s.Reached (here ++ [c]) := by
  intro q hq
  obtain rfl | hq := List.prefix_concat_iff.mp hq
  · exact hc
  · exact h q hq

/-- A directory is made where nothing is, so no directory is replaced. -/
theorem keeps_put_directory {path : List String} (hpath : path ≠ []) :
    s.Keeps (s.put path .directory) := by
  intro q hq
  by_cases heq : q = path
  · subst heq
    rw [isDirectory, get?_put_self hpath]
  · rwa [isDirectory, get?_put_of_ne heq]

theorem isDirectory_put_file {path : List String} (hpath : s.isDirectory path = false)
    (content : ByteArray) (q : List String) :
    (s.put path (.file content)).isDirectory q = s.isDirectory q := by
  have hroot : path ≠ [] := by
    rintro rfl
    rw [isDirectory_nil] at hpath
    exact Bool.noConfusion hpath
  by_cases heq : q = path
  · subst heq
    rw [isDirectory, get?_put_self hroot, hpath]
  · rw [isDirectory, get?_put_of_ne heq, isDirectory]

theorem walk_up (rest : List String) {here : List String} (h : s.isDirectory here = true) :
    s.walk here (".." :: rest) = s.walk here.dropLast rest := by
  rw [walk, h, if_pos rfl]
  rfl

theorem walk_down (rest : List String) {here : List String} {c : String}
    (h : s.isDirectory here = true) (hc : c ≠ "..") :
    s.walk here (c :: rest) = s.walk (here ++ [c]) rest := by
  rw [walk, h, if_neg hc]
  rfl

theorem makeDirectories_down {c : String} {rest here there : List String} (hc : c ≠ "..")
    (h : s.makeDirectories here (c :: rest) = (t, .ok there)) :
    ∃ made, s.Keeps made ∧ made.isDirectory (here ++ [c]) = true ∧
      made.makeDirectories (here ++ [c]) rest = (t, .ok there) := by
  have hroot : here ++ [c] ≠ [] := List.append_ne_nil_of_right_ne_nil _ (List.cons_ne_nil _ _)
  rw [makeDirectories, if_neg hc] at h
  cases hget : s.get? (here ++ [c]) with
  | none =>
    rw [hget] at h
    exact ⟨_, keeps_put_directory hroot, by rw [isDirectory, get?_put_self hroot], h⟩
  | some e =>
    rw [hget] at h
    cases e with
    | directory => exact ⟨s, fun _ hq ↦ hq, by rw [isDirectory, hget], h⟩
    | file content => cases h

/-- **The directories that are made.** Those that exist are kept, all directories around the last
one exist afterwards, and the components lead there. -/
theorem makeDirectories_spec {cs : List String} {here there : List String} (hhere : s.Reached here)
    (h : s.makeDirectories here cs = (t, .ok there)) :
    s.Keeps t ∧ t.Reached there ∧ t.walk here cs = some there := by
  -- all directories around the place exist at every component, so a step upward leads to one
  induction cs generalizing s here with
  | nil =>
    rw [makeDirectories] at h
    cases h
    exact ⟨fun _ hq ↦ hq, hhere, rfl⟩
  | cons c rest ih =>
    by_cases hup : c = ".."
    · subst hup
      rw [makeDirectories, if_pos rfl] at h
      obtain ⟨hkeeps, hthere, hwalk⟩ := ih hhere.dropLast h
      exact ⟨hkeeps, hthere, (walk_up rest (hkeeps here hhere.here)).trans hwalk⟩
    · obtain ⟨made, hmade, hdir, h⟩ := makeDirectories_down hup h
      have hreached : made.Reached (here ++ [c]) := (hhere.of_keeps hmade).concat hdir
      obtain ⟨hkeeps, hthere, hwalk⟩ := ih hreached h
      have hlast : t.isDirectory here = true := hkeeps here (hmade here hhere.here)
      exact ⟨fun q hq ↦ hkeeps q (hmade q hq), hthere, (walk_down rest hlast hup).trans hwalk⟩

/-! ## Files -/

theorem walk_congr (h : ∀ q, t.isDirectory q = s.isDirectory q) (here cs : List String) :
    t.walk here cs = s.walk here cs := by
  induction cs generalizing here with
  | nil => rfl
  | cons c rest ih => rw [walk, walk, h, ih, ih]

theorem walk_append {here there : List String} {cs : List String} (cs' : List String)
    (h : s.walk here cs = some there) : s.walk here (cs ++ cs') = s.walk there cs' := by
  induction cs generalizing here with
  | nil =>
    rw [walk, Option.some_inj] at h
    rw [h, List.nil_append]
  | cons c rest ih =>
    rw [walk] at h
    rw [List.cons_append, walk]
    split at h
    · cases h
    · rename_i hdir
      rw [if_neg hdir]
      split at h
      · rename_i hup
        rw [if_pos hup, ih h]
      · rename_i hup
        rw [if_neg hup, ih h]

/-- What a successful write does: it makes the directories around a name and puts the file there,
where no directory is. -/
theorem write_eq_ok {path : String} {content : ByteArray} (h : s.write path content = (t, .ok ())) :
    ∃ made here name,
      s.makeDirectories [] (Path.components path).dropLast = (made, .ok here) ∧
      (Path.components path).getLast? = some name ∧ name ≠ ".." ∧
      Path.namesDirectory path = false ∧ made.isDirectory (here ++ [name]) = false ∧
      t = made.put (here ++ [name]) (.file content) := by
  rw [write] at h
  generalize hmade : s.makeDirectories [] (Path.components path).dropLast = r at h
  obtain ⟨made, answer⟩ := r
  cases answer with
  | error e => cases h
  | ok here =>
    cases hlast : (Path.components path).getLast? with
    | none =>
      rw [hlast] at h
      cases h
    | some name =>
      rw [hlast] at h
      dsimp only at h
      split at h
      · cases h
      · rename_i hfree
        simp only [Bool.or_eq_true, not_or, Bool.not_eq_true, decide_eq_false_iff_not] at hfree
        cases h
        exact ⟨made, here, name, rfl, rfl, hfree.1.1, hfree.1.2, hfree.2, rfl⟩

/-- **A file that was written is found.** -/
theorem find?_of_write {path : String} {content : ByteArray}
    (h : s.write path content = (t, .ok ())) :
    ∃ place, t.find? path = some (place, .file content) := by
  obtain ⟨made, here, name, hmade, hlast, hup, hnames, hfree, rfl⟩ := write_eq_ok h
  have hroot : s.Reached [] := fun q hq ↦ by rw [List.prefix_nil.mp hq, isDirectory_nil]
  obtain ⟨-, hhere, hwalk⟩ := makeDirectories_spec hroot hmade
  have hcomponents : Path.components path = (Path.components path).dropLast ++ [name] :=
    (List.dropLast_append_getLast? name hlast).symm
  -- the file is no directory and replaces none, so the components lead where they led before
  have hplace : (made.put (here ++ [name]) (.file content)).walk [] (Path.components path)
      = some (here ++ [name]) := by
    rw [walk_congr (isDirectory_put_file hfree content), hcomponents, walk_append [name] hwalk,
      walk_down [] hhere.here hup, walk]
  have hget : (made.put (here ++ [name]) (.file content)).get? (here ++ [name])
      = some (.file content) :=
    get?_put_self (List.append_ne_nil_of_right_ne_nil _ (List.cons_ne_nil _ _)) _
  refine ⟨here ++ [name], ?_⟩
  simp only [find?, hplace, hget, hnames, Bool.false_eq_true, if_false]

end CallRouting.Store
