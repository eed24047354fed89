import CallRouting.Document.Fields
import CallRouting.Proofs.OrderedMap

/-!
# Reading back what was written

A writer turns a value into an untyped value, and the untyped value into a text. What a format has
to do for the reader's part is to answer at each place as the untyped value that the place holds
would have it: `Holding` collects these laws. Everything else is about types and not about formats.
`ReadsBack v a` says that wherever `v` is held, `a` is read, in any format; it is closed under
lists, maps, values that may be left out, and records.

A record is written as an object in which each field stands once, in the order of the record, or is
left out if its value is the one that stands for it then (`Fields.Given`).
-/

namespace CallRouting

/-- A format whose places answer as the untyped value that they hold would have it. -/
class Holding (ν : Type) (ε : outParam Type) [Document ν ε] where
  /-- Whether a place holds an untyped value. -/
  Holds : ν → Json.Value → Prop
  /-- A text is read as it is. -/
  string {p : ν} {s : String} (h : Holds p (.string s)) : Document.string p = .ok s
  /-- A truth value is read as it is. -/
  bool {p : ν} {b : Bool} (h : Holds p (.bool b)) : Document.bool p = .ok b
  /-- The null value, and nothing else, is what is left out. -/
  isNull {p : ν} {v : Json.Value} (h : Holds p v) : Document.isNull p = .ok (decide (v = .null))
  /-- A text names a choice. -/
  choice {α : Type} {p : ν} {s : String} {named : String → Option α} {a : α}
    (h : Holds p (.string s)) (ha : named s = some a) : Document.choice p named = .ok a
  /-- The items of an array are held in their order, and no fault follows them. -/
  list {p : ν} {items : List Json.Value} (h : Holds p (.array items)) :
    ∃ places, Document.list p = .ok ⟨places, none⟩ ∧ List.Forall₂ Holds places items
  /-- The members of an object are held in their order, as the entries of a map and as the fields of
  a record, and no fault follows them. -/
  members {p : ν} {ms : List (String × Json.Value)} (h : Holds p (.object ms)) :
    ∃ places, Document.map p = .ok ⟨places, none⟩ ∧
      Document.record p = .ok (.named ⟨places, none⟩) ∧
      List.Forall₂ (fun e m ↦ e.1 = .ok m.1 ∧ Holds e.2 m.2) places ms
  /-- A value of which every object is in order is read as it is. -/
  value {p : ν} {v : Json.Value} (h : Holds p v) (hv : v.InOrder) : Document.value p = .ok v

open Holding (Holds)

/-- Wherever an untyped value is held, a value is read. -/
structure ReadsBack {α : Type} [Decode α] (v : Json.Value) (a : α) : Prop where
  /-- The value is read at every place of every format. -/
  decode_eq : ∀ {ν ε : Type} [Document ν ε] [Holding ν ε] (p : ν), Holds p v → decode p = .ok a

namespace ReadsBack

theorem string (s : String) : ReadsBack (.string s) s := ⟨fun _ h ↦ Holding.string h⟩

theorem bool (b : Bool) : ReadsBack (.bool b) b := ⟨fun _ h ↦ Holding.bool h⟩

theorem value {v : Json.Value} (hv : v.InOrder) : ReadsBack v v := ⟨fun _ h ↦ Holding.value h hv⟩

variable {α : Type} [Decode α]

theorem absent : ReadsBack .null (none : Option α) := by
  refine ⟨fun p hp ↦ ?_⟩
  have hnull : Document.isNull p = .ok true := Holding.isNull hp
  change decodeOption p = _
  rw [decodeOption, hnull]

theorem present {v : Json.Value} {a : α} (hv : v ≠ .null) (h : ReadsBack v a) :
    ReadsBack v (some a) := by
  refine ⟨fun p hp ↦ ?_⟩
  have hnull : Document.isNull p = .ok (decide (v = .null)) := Holding.isNull hp
  rw [decide_eq_false hv] at hnull
  change decodeOption p = _
  rw [decodeOption, hnull, h.decode_eq p hp]
  rfl

theorem list {f : α → Json.Value} {l : List α} (h : ∀ a ∈ l, ReadsBack (f a) a) :
    ReadsBack (.array (l.map f)) l := by
  refine ⟨fun p hp ↦ ?_⟩
  obtain ⟨places, hplaces, hholds⟩ := Holding.list hp
  have hitems : decodeItems places = .ok l := by
    rw [List.forall₂_map_right_iff] at hholds
    clear hplaces hp
    induction hholds with
    | nil => rfl
    | cons hplace _ ih =>
      obtain ⟨ha, hl⟩ := List.forall_mem_cons.mp h
      rw [decodeItems, ha.decode_eq _ hplace, ih hl]
      rfl
  change decodeList p = _
  rw [decodeList, hplaces]
  dsimp only
  rw [hitems]
  rfl

private theorem decodeMembers_of_holds {ν ε : Type} [Document ν ε] [Holding ν ε]
    {f : α → Json.Value} {l : List (String × α)} {places : List (Except ε String × ν)}
    (h : ∀ e ∈ l, ReadsBack (f e.2) e.2)
    (hholds : List.Forall₂ (fun e m ↦ e.1 = .ok m.1 ∧ Holds e.2 m.2) places
      (l.map fun e ↦ (e.1, f e.2))) :
    decodeMembers places = .ok l := by
  rw [List.forall₂_map_right_iff] at hholds
  induction hholds with
  | nil => rfl
  | @cons place e places l hplace _ ih =>
    obtain ⟨he, hl⟩ := List.forall_mem_cons.mp h
    obtain ⟨name, place⟩ := place
    obtain ⟨rfl, hholds⟩ := hplace
    rw [decodeMembers, he.decode_eq _ hholds]
    dsimp only
    rw [ih hl]
    rfl

theorem map {f : α → Json.Value} {m : OrderedMap α} (h : ∀ e ∈ m.entries, ReadsBack (f e.2) e.2) :
    ReadsBack (.object (m.map f).entries) m := by
  refine ⟨fun p hp ↦ ?_⟩
  obtain ⟨places, hplaces, -, hholds⟩ := Holding.members hp
  change decodeMap p = _
  rw [decodeMap, hplaces]
  dsimp only
  rw [decodeMembers_of_holds h hholds]
  exact congrArg Except.ok (OrderedMap.ext (OrderedMap.entries_ofList m.nodup))

theorem values {m : OrderedMap Json.Value} (h : ∀ v ∈ m.values, v.InOrder) :
    ReadsBack (.object m.entries) m := by
  have hmap : m.map id = m := OrderedMap.ext (List.map_id _)
  have hread : ReadsBack (.object (m.map id).entries) m :=
    .map fun e he ↦ .value (h e.2 (List.mem_map_of_mem he))
  rwa [hmap] at hread

end ReadsBack

/-! ## Records -/

namespace Fields

variable {ν ε : Type}

/-- The names of the fields of a record. -/
def names : {βs : List Type} → Fields ν ε βs → List String
  | _, .done => []
  | _, .field name _ _ rest => name :: rest.names

variable [Document ν ε]

section Offer

variable {β : Type} {βs : List Type} {name : String} {read : ν → Except ε β} {absent : Option β}
  {rest : Fields ν ε βs} {v : ν} {slots : Slots βs}

theorem offer_self :
    (Fields.field name read absent rest).offer name v (none, slots)
      = some ((read v).map fun b ↦ (some b, slots)) := if_pos rfl

theorem offer_of_ne {other : String} {slot : Option β} (h : other ≠ name) :
    (Fields.field name read absent rest).offer other v (slot, slots)
      = (rest.offer other v slots).map fun r ↦ r.map fun slots ↦ (slot, slots) := if_neg h

end Offer

theorem readNamed_cons {βs : List Type} (fields : Fields ν ε βs) (stranger : Stranger)
    (slots : Slots βs) (name : String) (v : ν) (places : List (Except ε String × ν)) :
    fields.readNamed stranger slots ((.ok name, v) :: places)
      = match fields.offer name v slots with
        | some (.error e) => .error e
        | some (.ok slots) => fields.readNamed stranger slots places
        | none =>
          match stranger with
          | .refused => .error (Document.misfit ν)
          | .ignored =>
            match Document.skip v with
            | .error e => .error e
            | .ok () => fields.readNamed stranger slots places := rfl

theorem readNamed_field {β : Type} {βs : List Type} {name : String} {read : ν → Except ε β}
    {absent : Option β} {rest : Fields ν ε βs} {stranger : Stranger} {slot : Option β}
    {slots : Slots βs} {places : List (Except ε String × ν)}
    (h : ∀ e ∈ places, ∃ other, e.1 = .ok other ∧ other ≠ name) :
    (Fields.field name read absent rest).readNamed stranger (slot, slots) places
      = (rest.readNamed stranger slots places).map fun slots ↦ (slot, slots) := by
  induction places generalizing slots with
  | nil => rfl
  | cons e places ih =>
    obtain ⟨⟨other, he, hne⟩, hplaces⟩ := List.forall_mem_cons.mp h
    obtain ⟨_, v⟩ := e
    obtain rfl := he
    rw [readNamed_cons, readNamed_cons, offer_of_ne hne]
    cases rest.offer other v slots with
    | none =>
      cases stranger with
      | ignored =>
        dsimp only [Option.map_none]
        cases Document.skip v with
        | error e => rfl
        | ok u => exact ih hplaces
      | refused => rfl
    | some answer =>
      cases answer with
      | error e => rfl
      | ok slots => exact ih hplaces

variable [Holding ν ε]

/-- The members of an object are the fields of a record with their values, in the order of the
record; a field that is left out has the value that stands for it then. -/
inductive Given : {βs : List Type} → Fields ν ε βs → List (String × Json.Value) → Tuple βs → Prop
  /-- There are no more fields. -/
  | done : Given .done [] ()
  /-- A field that is written. -/
  | written {β : Type} {βs : List Type} {name : String} {read : ν → Except ε β}
      {absent : Option β} {rest : Fields ν ε βs} {v : Json.Value} {b : β}
      {ms : List (String × Json.Value)} {bs : Tuple βs}
      (hread : ∀ p, Holds p v → read p = .ok b) (h : Given rest ms bs) :
      Given (.field name read absent rest) ((name, v) :: ms) (b, bs)
  /-- A field that is left out. -/
  | leftOut {β : Type} {βs : List Type} {name : String} {read : ν → Except ε β}
      {rest : Fields ν ε βs} {b : β} {ms : List (String × Json.Value)} {bs : Tuple βs}
      (h : Given rest ms bs) : Given (.field name read (some b) rest) ms (b, bs)

section Given

variable {βs : List Type} {fields : Fields ν ε βs} {ms : List (String × Json.Value)}
  {bs : Tuple βs}

theorem Given.sublist (h : Given fields ms bs) : (ms.map Prod.fst).Sublist fields.names := by
  induction h with
  | done => exact List.Sublist.refl []
  | written _ _ ih => exact ih.cons_cons _
  | leftOut _ ih => exact ih.cons _

private theorem forall_ne_of_holds {name : String} {places : List (Except ε String × ν)}
    (hholds : List.Forall₂ (fun e m ↦ e.1 = .ok m.1 ∧ Holds e.2 m.2) places ms)
    (hname : name ∉ ms.map Prod.fst) : ∀ e ∈ places, ∃ other, e.1 = .ok other ∧ other ≠ name := by
  induction hholds with
  | nil => exact List.forall_mem_nil _
  | @cons e m places ms hheld _ ih =>
    rw [List.map_cons, List.mem_cons, not_or] at hname
    exact List.forall_mem_cons.mpr ⟨⟨m.1, hheld.1, Ne.symm hname.1⟩, ih hname.2⟩

/-- The fields that are given are read, and what is left out is what stands for it. -/
private theorem exists_slots_of_given (h : Given fields ms bs) (hnodup : fields.names.Nodup)
    (stranger : Stranger) {places : List (Except ε String × ν)}
    (hholds : List.Forall₂ (fun e m ↦ e.1 = .ok m.1 ∧ Holds e.2 m.2) places ms) :
    ∃ slots, fields.readNamed stranger fields.unread places = .ok slots ∧
      fields.close slots = .ok bs := by
  induction h generalizing places with
  | done =>
    cases hholds
    exact ⟨(), rfl, rfl⟩
  | @written β βs name read absent rest v b ms bs hread h ih =>
    obtain ⟨hname, hrest⟩ := List.nodup_cons.mp hnodup
    obtain ⟨place, places, ⟨hok, hplace⟩, hplaces, rfl⟩ := List.forall₂_cons_right_iff.mp hholds
    obtain ⟨slots, hslots, hclose⟩ := ih hrest hplaces
    obtain ⟨_, place⟩ := place
    obtain rfl := hok
    -- names are distinct, so the members behind this one leave the slot of this field alone
    have hothers := forall_ne_of_holds hplaces fun hmem ↦ hname (h.sublist.subset hmem)
    refine ⟨(some b, slots), ?_, ?_⟩
    · rw [unread, readNamed_cons, offer_self, hread place hplace]
      dsimp only [Except.map]
      rw [readNamed_field hothers, hslots]
      rfl
    · rw [close, Option.some_or]
      dsimp only
      rw [hclose]
      rfl
  | @leftOut β βs name read rest b ms bs h ih =>
    obtain ⟨hname, hrest⟩ := List.nodup_cons.mp hnodup
    obtain ⟨slots, hslots, hclose⟩ := ih hrest hholds
    have hothers := forall_ne_of_holds hholds fun hmem ↦ hname (h.sublist.subset hmem)
    refine ⟨(none, slots), ?_, ?_⟩
    · rw [unread, readNamed_field hothers, hslots]
      rfl
    · rw [close, Option.none_or]
      dsimp only
      rw [hclose]
      rfl

/-- **A record is read from the fields that are given.** -/
theorem read_of_given (h : Given fields ms bs) (hnodup : fields.names.Nodup) (stranger : Stranger)
    {p : ν} (hp : Holds p (.object ms)) : fields.read stranger p = .ok bs := by
  obtain ⟨places, -, hrecord, hholds⟩ := Holding.members hp
  obtain ⟨slots, hslots, hclose⟩ := exists_slots_of_given h hnodup stranger hholds
  rw [read, hrecord]
  dsimp only
  rw [hslots]
  exact hclose

end Given

section Written

variable {α : Type} [Decode α] {name : String} {v : Json.Value} {a : α} {βs : List Type}
  {rest : Fields ν ε βs} {ms : List (String × Json.Value)} {bs : Tuple βs}

theorem Given.required (hv : ReadsBack v a) (h : Given rest ms bs) :
    Given (.required name α rest) ((name, v) :: ms) (a, bs) := .written hv.decode_eq h

theorem Given.optional {absent : α} (hv : ReadsBack v a) (h : Given rest ms bs) :
    Given (.optional name absent rest) ((name, v) :: ms) (a, bs) := .written hv.decode_eq h

theorem Given.absent (h : Given rest ms bs) :
    Given (.optional name a rest) ms (a, bs) := .leftOut h

end Written

end Fields

/-- A record reads back from an object in which its fields are given. -/
theorem ReadsBack.record {α : Type} [Decode α] {a : α} {βs : List Type}
    (fields : {ν ε : Type} → [Document ν ε] → Fields ν ε βs) (names : List String)
    (stranger : Fields.Stranger) {ms : List (String × Json.Value)} {bs : Tuple βs}
    (hgiven : ∀ {ν ε : Type} [Document ν ε] [Holding ν ε], (fields : Fields ν ε βs).Given ms bs)
    (hdecode : ∀ {ν ε : Type} [Document ν ε] (p : ν),
      fields.read stranger p = (.ok bs : Except ε (Tuple βs)) → decode p = (.ok a : Except ε α))
    (hnames : ∀ {ν ε : Type} [Document ν ε], (fields : Fields ν ε βs).names = names)
    (hnodup : names.Nodup) : ReadsBack (.object ms) a := by
  refine ⟨fun p hp ↦ hdecode p (Fields.read_of_given hgiven ?_ stranger hp)⟩
  rw [hnames]
  exact hnodup

end CallRouting
