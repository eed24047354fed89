import CallRouting.Settings.Path
import Mathlib.Data.List.TakeWhile

/-!
# Overrides that start at the home directory

An override of the settings file that is a tilde, or starts with one and a slash, stands for a path
from the home directory. What follows the slash is joined to the home directory, so that the path
leads there, and on along the components of what follows, unless what follows is absolute itself:
then it replaces the home directory, and nothing of that is left.

A path is followed by its `steps`: its components, after the root or the point in front of it if it
has one. What carries the proof is that a slash between two texts separates their pieces
(`splitSlashes_append`), so that the steps of a joined path are those of its parts.
-/

namespace CallRouting

namespace Text

section Trim

variable {α : Type} {p : α → Bool}

theorem trimList_append_append {before after : List α} (hbefore : ∀ a ∈ before, p a = true)
    (hafter : ∀ a ∈ after, p a = true) (l : List α) :
    trimList p (before ++ l ++ after) = trimList p l := by
  have hfront : (before ++ l ++ after).dropWhile p = (l ++ after).dropWhile p := by
    rw [List.append_assoc, List.dropWhile_append_of_pos hbefore]
  have hback : ∀ a ∈ after.reverse, p a = true := fun a ha ↦ hafter a (List.mem_reverse.mp ha)
  rw [trimList, trimList, hfront, List.dropWhile_append]
  by_cases hl : (l.dropWhile p).isEmpty = true
  · rw [if_pos hl, List.isEmpty_iff.mp hl, List.dropWhile_eq_nil_iff.mpr hafter]
  · rw [if_neg hl, List.reverse_append, List.dropWhile_append_of_pos hback]

end Trim

theorem trim_append_append {before after : String} (hbefore : ∀ c ∈ before.toList, isBlank c = true)
    (hafter : ∀ c ∈ after.toList, isBlank c = true) (s : String) :
    trim (before ++ s ++ after) = trim s := by
  rw [trim, trim, String.toList_append, String.toList_append,
    trimList_append_append hbefore hafter]

end Text

namespace Path

/-! ## The steps of a path -/

/-- What stands in front of the components of a path: the root, or the place where it is. -/
def front (path : String) : List String :=
  if isAbsolute path then ["/"]
  else if (splitSlashes path.toList).head? = some ['.'] then ["."]
  else []

/-- What a path is followed by, one after the other. -/
def steps (path : String) : List String := front path ++ components path

/-- A path that leads to a directory, and on along the components of a text. -/
structure Below (directory text path : String) : Prop where
  /-- The steps to the directory come first. -/
  under : steps directory <+: steps path
  /-- The components of the text follow. -/
  follows : components path = components directory ++ components text

theorem splitSlashes_ne_nil (cs : List Char) : splitSlashes cs ≠ [] := by
  cases cs with
  | nil => exact List.cons_ne_nil [] []
  | cons c rest =>
    rw [splitSlashes]
    split_ifs
    · exact List.cons_ne_nil _ _
    · split <;> exact List.cons_ne_nil _ _

/-- **A slash between two texts separates their pieces.** -/
theorem splitSlashes_append (cs cs' : List Char) :
    splitSlashes (cs ++ '/' :: cs') = splitSlashes cs ++ splitSlashes cs' := by
  induction cs with
  | nil => rfl
  | cons c rest ih =>
    rw [List.cons_append, splitSlashes, splitSlashes, ih]
    by_cases hc : c = '/'
    · rw [if_pos hc, if_pos hc, List.cons_append]
    · rw [if_neg hc, if_neg hc]
      cases hrest : splitSlashes rest with
      | nil => exact absurd hrest (splitSlashes_ne_nil rest)
      | cons first others => rfl

/-- The components of a text in pieces. -/
private def componentsOf (pieces : List (List Char)) : List String :=
  (pieces.filter fun cs ↦ !cs.isEmpty && cs != ['.']).map String.ofList

private theorem components_eq (path : String) :
    components path = componentsOf (splitSlashes path.toList) := rfl

private theorem componentsOf_append (pieces pieces' : List (List Char)) :
    componentsOf (pieces ++ pieces') = componentsOf pieces ++ componentsOf pieces' := by
  rw [componentsOf, List.filter_append, List.map_append, componentsOf, componentsOf]

/-- A path that is not absolute is put after a slash: one that is there already, or a new one. -/
theorem toList_join {base path : String} (hbase : base ≠ "") (hpath : isAbsolute path = false) :
    ∃ cs, (join base path).toList = cs ++ '/' :: path.toList ∧
      (base.toList = cs ++ ['/'] ∨ base.toList = cs ∧ cs ≠ []) := by
  have hne : base.toList ≠ [] := by simpa using hbase
  have hempty : base.isEmpty = false := by simpa using hbase
  rw [join, hpath, hempty, Bool.false_or]
  by_cases hslash : (base.toList.getLast? == some '/') = true
  · obtain ⟨cs, hcs⟩ := List.getLast?_eq_some_iff.mp (beq_iff_eq.mp hslash)
    refine ⟨cs, ?_, Or.inl hcs⟩
    rw [if_neg Bool.false_ne_true, if_pos hslash, String.toList_append, hcs, List.append_assoc]
    rfl
  · refine ⟨base.toList, ?_, Or.inr ⟨rfl, hne⟩⟩
    rw [if_neg Bool.false_ne_true, if_neg hslash, String.toList_append, String.toList_append,
      List.append_assoc]
    rfl

/-- **The steps of a joined path** are those of the first, and then the components of the second. -/
theorem steps_join {base path : String} (hbase : base ≠ "") (hpath : isAbsolute path = false) :
    front (join base path) = front base ∧
      components (join base path) = components base ++ components path := by
  obtain ⟨cs, hjoin, hcs⟩ := toList_join hbase hpath
  -- the slash at the end of a path, if there is one, is followed by an empty piece
  have hpieces : splitSlashes base.toList = splitSlashes cs ∨
      splitSlashes base.toList = splitSlashes cs ++ [[]] := by
    obtain hslash | ⟨heq, -⟩ := hcs
    · exact Or.inr (by rw [hslash, splitSlashes_append]; rfl)
    · exact Or.inl (by rw [heq])
  have habsolute : isAbsolute (join base path) = isAbsolute base := by
    rw [isAbsolute, isAbsolute, hjoin]
    obtain hslash | ⟨heq, hne⟩ := hcs
    · rw [hslash]
      cases cs <;> rfl
    · rw [heq]
      cases cs with
      | nil => exact absurd rfl hne
      | cons c rest => rfl
  obtain ⟨first, others, hfirst⟩ := List.exists_cons_of_ne_nil (splitSlashes_ne_nil cs)
  constructor
  · rw [front, front, habsolute, hjoin, splitSlashes_append]
    obtain heq | heq := hpieces <;> rw [heq, hfirst] <;> rfl
  · rw [components_eq, components_eq, components_eq, hjoin, splitSlashes_append,
      componentsOf_append]
    obtain heq | heq := hpieces
    · rw [heq]
    · rw [heq, componentsOf_append]
      exact congrArg (· ++ _) (List.append_nil _).symm

theorem below_join (base : String) {path : String} (hpath : isAbsolute path = false) :
    Below base path (join base path) := by
  by_cases hbase : base = ""
  · subst hbase
    have hjoin : join "" path = path := by
      rw [join, hpath, if_neg Bool.false_ne_true, if_pos (by rfl), String.empty_append]
    rw [hjoin]
    exact ⟨List.nil_prefix, rfl⟩
  · obtain ⟨hfront, hcomponents⟩ := steps_join hbase hpath
    refine ⟨?_, hcomponents⟩
    rw [steps, steps, hfront, hcomponents, ← List.append_assoc]
    exact List.prefix_append _ _

/-! ## Overrides -/

theorem toList_tilde_slash (rest : String) :
    ("~/" ++ rest).toList = '~' :: '/' :: rest.toList := by
  rw [String.toList_append]
  rfl

theorem settingsPath_of_override {e : Environment} {value : String} (he : e.override = some value)
    (hvalue : Text.trim value ≠ "") : settingsPath e = expandHome e.homeDirectory value := by
  have hempty : (Text.trim value).isEmpty = false := by simpa using hvalue
  rw [settingsPath, he]
  exact if_neg (Bool.eq_false_iff.mp hempty)

theorem expandHome_of_tilde {home value : String} (h : Text.trim value = "~") :
    expandHome home value = home := by
  rw [expandHome, h]
  rfl

theorem expandHome_of_tilde_slash {home value rest : String} (h : Text.trim value = "~/" ++ rest) :
    expandHome home value = join home rest := by
  rw [expandHome, h, toList_tilde_slash]
  exact congrArg (join home) String.ofList_toList

/-- **Where an override leads that starts with a tilde.** Blanks around it do not count. A tilde
alone leads to the home directory. A tilde and a slash lead below it, along the components of what
follows, unless that is absolute, that is, starts with another slash: then the path is what follows,
wherever that leads. If the home directory is not known, a tilde takes its place in all this. -/
theorem tilde_override_leads_below_home {e : Environment} {value : String}
    (he : e.override = some value) :
    (∀ home, e.home = some home → e.homeDirectory = home) ∧
    (e.home = none → e.homeDirectory = "~") ∧
    (Text.trim value = "~" → settingsPath e = e.homeDirectory) ∧
    (∀ rest, Text.trim value = "~/" ++ rest →
      (isAbsolute rest = false → Below e.homeDirectory rest (settingsPath e)) ∧
      (isAbsolute rest = true → settingsPath e = rest)) ∧
    (∀ before after, (∀ c ∈ before.toList, Text.isBlank c = true) →
      (∀ c ∈ after.toList, Text.isBlank c = true) →
      settingsPath { e with override := some (before ++ value ++ after) } = settingsPath e) := by
  refine ⟨fun home hhome ↦ ?_, fun hhome ↦ ?_, fun htilde ↦ ?_, fun rest hrest ↦ ?_,
    fun before after hbefore hafter ↦ ?_⟩
  · rw [Environment.homeDirectory, hhome, Option.getD_some]
  · rw [Environment.homeDirectory, hhome, Option.getD_none]
  · have hne : Text.trim value ≠ "" := by
      rw [htilde]
      decide
    rw [settingsPath_of_override he hne, expandHome_of_tilde htilde]
  · have hne : Text.trim value ≠ "" := by
      intro hempty
      have hlist := congrArg String.toList (hrest.symm.trans hempty)
      rw [toList_tilde_slash] at hlist
      cases hlist
    rw [settingsPath_of_override he hne, expandHome_of_tilde_slash hrest]
    refine ⟨fun hrelative ↦ below_join e.homeDirectory hrelative, fun habsolute ↦ ?_⟩
    rw [join, if_pos habsolute]
  · rw [settingsPath, settingsPath, he]
    dsimp only
    rw [expandHome, expandHome, Text.trim_append_append hbefore hafter]
    rfl

/-- With blanks around it, points in it and no slash after the first one, an override leads below
the home directory, or below a tilde if there is no home directory. -/
theorem tilde_override_of_ada :
    Below "/home/ada" "./waypoint//../client.yaml"
      (settingsPath ⟨some "/home/ada", none, some " ~/./waypoint//../client.yaml\n"⟩) ∧
    Below "~" "client.yaml" (settingsPath ⟨none, none, some "~/client.yaml"⟩) ∧
    settingsPath ⟨some "/home/ada", none, some "\t~ "⟩ = "/home/ada" ∧
    settingsPath ⟨some "/home/ada", none, some (" " ++ "~" ++ "\n")⟩
      = settingsPath ⟨some "/home/ada", none, some "~"⟩ := by
  obtain ⟨-, -, -, hrest, -⟩ := tilde_override_leads_below_home (e :=
    ⟨some "/home/ada", none, some " ~/./waypoint//../client.yaml\n"⟩) rfl
  obtain ⟨-, -, -, hunknown, -⟩ :=
    tilde_override_leads_below_home (e := ⟨none, none, some "~/client.yaml"⟩) rfl
  obtain ⟨-, -, htilde, -, -⟩ :=
    tilde_override_leads_below_home (e := ⟨some "/home/ada", none, some "\t~ "⟩) rfl
  obtain ⟨-, -, -, -, hblank⟩ :=
    tilde_override_leads_below_home (e := ⟨some "/home/ada", none, some "~"⟩) rfl
  have hspace : ∀ c ∈ " ".toList, Text.isBlank c = true := List.forall_mem_singleton.mpr rfl
  have hbreak : ∀ c ∈ "\n".toList, Text.isBlank c = true := List.forall_mem_singleton.mpr rfl
  exact ⟨(hrest "./waypoint//../client.yaml" rfl).1 rfl, (hunknown "client.yaml" rfl).1 rfl,
    htilde rfl, hblank " " "\n" hspace hbreak⟩

/-- What follows a tilde and two slashes replaces the home directory. -/
theorem tilde_override_leaves_home :
    ¬∀ (e : Environment) (home value rest : String), e.home = some home →
      e.override = some value → Text.trim value = "~/" ++ rest →
      steps home <+: steps (settingsPath e) := by
  intro h
  have hprefix := h ⟨some "/home/ada", none, some "~//etc/waypoint.json"⟩ "/home/ada"
    "~//etc/waypoint.json" "/etc/waypoint.json" rfl rfl rfl
  have hhome : steps "/home/ada" = ["/", "home", "ada"] := rfl
  have hpath : steps (settingsPath ⟨some "/home/ada", none, some "~//etc/waypoint.json"⟩)
      = ["/", "etc", "waypoint.json"] := rfl
  rw [hhome, hpath] at hprefix
  exact absurd hprefix (by decide)

end Path

end CallRouting
