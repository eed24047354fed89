import CallRouting.Proofs.Json.Place
import CallRouting.Proofs.Settings.Files
import CallRouting.Proofs.Yaml.Place

/-!
# Settings survive saving and loading

Settings are a record of two maps, each left out if it is empty. Their untyped form reads back in
any format, so what remains is to follow the text: it is written to a file in the format of its
path, the file is found again, its bytes are the text, and the path is classified as before.
-/

namespace CallRouting

namespace Settings

open Fields Json.Value

/-! ## The untyped form -/

/-- The untyped values of settings. -/
def untyped (s : Settings) : List Json.Value := s.clientContext.values ++ s.builtIns.values

/-- An empty map is what stands for a map that is left out. -/
theorem given_fieldIfAny {ν ε : Type} [Document ν ε] [Holding ν ε] {name : String}
    {m : OrderedMap Json.Value} (hm : ∀ v ∈ m.values, v.InOrder) {βs : List Type}
    {rest : Fields ν ε βs} {ms : List (String × Json.Value)} {bs : Tuple βs}
    (h : Given rest ms bs) :
    Given (.optional name OrderedMap.empty rest) (fieldIfAny name m ++ ms) (m, bs) := by
  rw [fieldIfAny]
  split_ifs with hempty
  · have hm' : m = OrderedMap.empty := OrderedMap.ext (List.isEmpty_iff.mp hempty)
    rw [hm']
    exact .absent h
  · exact .optional (.values hm) h

/-- **Settings read back from their untyped form, in any format.** -/
theorem readsBack {s : Settings} (h : ∀ v ∈ s.untyped, v.InOrder) : ReadsBack s.toJson s := by
  obtain ⟨hclient, hbuiltIns⟩ := List.forall_mem_append.mp h
  have hmembers : s.toJson = .object
      (fieldIfAny "clientContext" s.clientContext ++ (fieldIfAny "builtins" s.builtIns ++ [])) := by
    rw [toJson, List.append_nil]
  rw [hmembers]
  exact .record fields ["clientContext", "builtins"] .refused
    (given_fieldIfAny hclient (given_fieldIfAny hbuiltIns .done))
    (fun _ h ↦ congrArg (Except.map _) h) rfl (by decide)

theorem forall_mem_fieldIfAny (p : Json.Value → Prop) {name : String}
    {m : OrderedMap Json.Value} (h : p (.object m.entries)) : ∀ e ∈ fieldIfAny name m, p e.2 := by
  rw [fieldIfAny]
  split_ifs
  · exact List.forall_mem_nil _
  · exact List.forall_mem_singleton.mpr h

theorem inWords_toJson {s : Settings} (h : ∀ v ∈ s.untyped, v.InWords) : s.toJson.InWords := by
  obtain ⟨hclient, hbuiltIns⟩ := List.forall_mem_append.mp h
  have hmap : ∀ {m : OrderedMap Json.Value}, (∀ v ∈ m.values, v.InWords) →
      InWords (.object m.entries) := fun hm ↦
    membersInWords_iff.mpr fun e he ↦ hm e.2 (List.mem_map_of_mem he)
  rw [toJson, InWords, membersInWords_iff, List.forall_mem_append]
  exact ⟨forall_mem_fieldIfAny InWords (hmap hclient),
    forall_mem_fieldIfAny InWords (hmap hbuiltIns)⟩

theorem depth_toJson_le {s : Settings} {n : ℕ} (h : ∀ v ∈ s.untyped, v.depth ≤ n) :
    s.toJson.depth ≤ n + 2 := by
  obtain ⟨hclient, hbuiltIns⟩ := List.forall_mem_append.mp h
  have hmap : ∀ {m : OrderedMap Json.Value}, (∀ v ∈ m.values, v.depth ≤ n) →
      depth (.object m.entries) ≤ n + 1 := fun hm ↦
    Nat.succ_le_succ (membersDepth_le_iff.mpr fun e he ↦ hm e.2 (List.mem_map_of_mem he))
  refine Nat.succ_le_succ (membersDepth_le_iff.mpr ?_)
  rw [List.forall_mem_append]
  exact ⟨forall_mem_fieldIfAny (depth · ≤ n + 1) (hmap hclient),
    forall_mem_fieldIfAny (depth · ≤ n + 1) (hmap hbuiltIns)⟩

end Settings

/-! ## Formats -/

namespace Path

theorem lowerLetter_eq_toLower (c : Char) : lowerLetter c = c.toLower := by
  -- the library has the cases of lower case as code points
  change _ = dite (c.val ≥ 'A'.val ∧ c.val ≤ 'Z'.val) _ _
  rw [lowerLetter]
  by_cases h : 'A' ≤ c ∧ c ≤ 'Z'
  · have hword : c.val ≥ 'A'.val ∧ c.val ≤ 'Z'.val := h
    have hle : c.toNat ≤ 90 := h.2
    have hvalid : (c.toNat + 32).isValidChar := .inl (by omega)
    rw [if_pos h, dif_pos hword, Char.ofNat, dif_pos hvalid]
    refine Char.ext (UInt32.toNat_inj.mp ?_)
    change c.toNat + 32 = (c.val + 32).toNat
    rw [UInt32.toNat_add]
    change _ = (c.toNat + 32) % 2 ^ 32
    omega
  · have hword : ¬(c.val ≥ 'A'.val ∧ c.val ≤ 'Z'.val) := h
    rw [if_neg h, dif_neg hword]

/-- A path is in YAML if its extension is one of two words, in any case. -/
theorem isYaml_iff {path : String} :
    isYaml path = true ↔ ∃ e, extension? path = some e ∧
      (e.map Char.toLower = "yaml".toList ∨ e.map Char.toLower = "yml".toList) := by
  have hlower : lowerLetter = Char.toLower := funext lowerLetter_eq_toLower
  rw [isYaml, hlower]
  cases extension? path with
  | none => simp
  | some e => simp only [Bool.or_eq_true, beq_iff_eq, Option.some.injEq, exists_eq_left']

end Path

/-! ## Saving and loading -/

namespace Store

theorem fromUTF8?_toUTF8 (s : String) : String.fromUTF8? s.toUTF8 = some s := by
  unfold String.fromUTF8?
  rw [String.toUTF8_eq_toByteArray, dif_pos s.isValidUTF8]
  rfl

variable {s t : Store} {path : String} {settings : Settings}

theorem text?_of_write {text : String} (h : s.write path text.toUTF8 = (t, .ok ())) :
    t.text? path = some text := by
  obtain ⟨place, hfind⟩ := find?_of_write h
  rw [text?, hfind]
  exact fromUTF8?_toUTF8 text

theorem load_of_text? {text : String} (h : s.text? path = some text) :
    s.load path = readSettings path text := by
  rw [text?] at h
  split at h
  · rename_i place content hfind
    rw [load, hfind]
    dsimp only
    rw [h]
  · cases h

theorem readSettings_eq (path text : String) :
    readSettings path text =
      if Path.isYaml path then (Yaml.read Settings text).mapError .yaml
      else (Json.read Settings text).mapError .json := by
  rw [readSettings]
  split_ifs
  · cases Yaml.read Settings text <;> rfl
  · cases Json.read Settings text <;> rfl

/-- **Settings are read from the text in which they are rendered.** -/
theorem readSettings_renderSettings
    (hvalues : ∀ v ∈ settings.untyped, v.InWords ∧ v.InOrder ∧ v.depth ≤ 125)
    (hyaml : Path.isYaml path = true →
      Yaml.untyped? (Yaml.render settings.toJson) = some settings.toJson) :
    readSettings path (renderSettings path settings) = .ok settings := by
  have hback : ReadsBack settings.toJson settings :=
    Settings.readsBack fun v hv ↦ (hvalues v hv).2.1
  have hwords : settings.toJson.InWords := Settings.inWords_toJson fun v hv ↦ (hvalues v hv).1
  have hdepth : settings.toJson.depth ≤ 127 :=
    Settings.depth_toJson_le fun v hv ↦ (hvalues v hv).2.2
  rw [readSettings, renderSettings]
  split_ifs with hformat
  · have hread := Yaml.read_of_readsBack hback (hyaml hformat) (hdepth.trans (by decide))
    rw [hread]
  · have hread := Json.read_of_readsBack hback hwords hdepth settings.toJson.toList_indented
    rw [hread]

/-- **Settings survive saving and loading.** A path is in YAML if its extension says so, and else
in JSON, for reading and for writing alike. Settings of which all numbers are whole and words of 64
bits and that nest no more than 125 levels are loaded from where they were saved, whatever the store
was like before: by way of the indented text in JSON, and in YAML if the text that was written is
the untyped value that it was written for. -/
theorem load_of_save (path : String) :
    (Path.isYaml path = true ↔ ∃ e, Path.extension? path = some e ∧
      (e.map Char.toLower = "yaml".toList ∨ e.map Char.toLower = "yml".toList)) ∧
    (∀ (s : Store) (text : String), s.text? path = some text →
      s.load path =
        if Path.isYaml path then (Yaml.read Settings text).mapError .yaml
        else (Json.read Settings text).mapError .json) ∧
    (∀ (s : Store) (settings : Settings),
      s.save path settings =
        s.write path (if Path.isYaml path then Yaml.render settings.toJson
          else settings.toJson.indented).toUTF8) ∧
    ∀ (s t : Store) (settings : Settings),
      (∀ v ∈ settings.untyped, v.InWords ∧ v.InOrder ∧ v.depth ≤ 125) →
      (Path.isYaml path = true →
        Yaml.untyped? (Yaml.render settings.toJson) = some settings.toJson) →
      s.save path settings = (t, .ok ()) →
      t.text? path = some (if Path.isYaml path then Yaml.render settings.toJson
          else settings.toJson.indented) ∧
        t.load path = .ok settings := by
  refine ⟨Path.isYaml_iff, fun s text htext ↦ ?_, fun _ _ ↦ rfl, ?_⟩
  · rw [load_of_text? htext]
    exact readSettings_eq path text
  · intro s t settings hvalues hyaml hsave
    have htext : t.text? path = some (renderSettings path settings) := text?_of_write hsave
    refine ⟨htext, ?_⟩
    rw [load_of_text? htext, readSettings_renderSettings hvalues hyaml]

/-! ### Settings in place of a file that is no JSON -/

private def nightly : Settings :=
  ⟨.ofList [("Zone", .string "north \"east\"\n"), ("Accelerate", .bool true),
      ("Limits", .array [.number (.whole (-9223372036854775808)), .null])],
    .ofList [("SDK::Region", .string "no"),
      ("Retry", .object [("after", .array []), ("times", .number (.whole 18446744073709551615))])]⟩

/-- A directory with a file that is no JSON. -/
private def malformed : Store :=
  ⟨[(["conf", "client.json"], .file "\x7b not json".toUTF8), (["conf"], .directory)]⟩

/-- The settings are loaded again from a file that held something else, and from one in YAML in a
directory that had to be made. -/
theorem load_of_save_nightly :
    (∀ v ∈ nightly.untyped, v.InWords ∧ v.InOrder ∧ v.depth ≤ 125) ∧
    malformed.text? "conf/client.json" = some "\x7b not json" ∧
    (malformed.save "conf/client.json" nightly).1.load "conf/client.json" = .ok nightly ∧
    Yaml.untyped? (Yaml.render nightly.toJson) = some nightly.toJson ∧
    (malformed.save "conf/nested/client.YmL" nightly).1.load "conf/nested/client.YmL"
      = .ok nightly := by
  have hretry : Json.Value.Ascending ["after", "times"] :=
    List.pairwise_pair.mpr (String.lt_iff_toList_lt.mpr (by decide))
  have hvalues : ∀ v ∈ nightly.untyped, v.InWords ∧ v.InOrder ∧ v.depth ≤ 125 := by
    have hlist : nightly.untyped = [.string "north \"east\"\n", .bool true,
      .array [.number (.whole (-9223372036854775808)), .null], .string "no",
      .object [("after", .array []), ("times", .number (.whole 18446744073709551615))]] := rfl
    rw [hlist]
    simp only [List.forall_mem_cons]
    refine ⟨⟨trivial, trivial, by decide⟩, ⟨trivial, trivial, by decide⟩,
      ⟨⟨⟨by decide, by decide⟩, trivial, trivial⟩, ⟨trivial, trivial, trivial⟩, by decide⟩,
      ⟨trivial, trivial, by decide⟩,
      ⟨⟨trivial, ⟨by decide, by decide⟩, trivial⟩, ⟨hretry, trivial, trivial, trivial⟩, by decide⟩,
      List.forall_mem_nil _⟩
  have hyaml : Yaml.untyped? (Yaml.render nightly.toJson) = some nightly.toJson := by
    decide +kernel
  have hjson : malformed.save "conf/client.json" nightly
      = ((malformed.save "conf/client.json" nightly).1, .ok ()) := Prod.ext rfl rfl
  have hnested : malformed.save "conf/nested/client.YmL" nightly
      = ((malformed.save "conf/nested/client.YmL" nightly).1, .ok ()) := Prod.ext rfl rfl
  have hfind : malformed.find? "conf/client.json"
      = some (["conf", "client.json"], .file "\x7b not json".toUTF8) := rfl
  have htext : malformed.text? "conf/client.json" = some "\x7b not json" := by
    rw [text?, hfind]
    exact fromUTF8?_toUTF8 _
  exact ⟨hvalues, htext,
    ((load_of_save "conf/client.json").2.2.2 _ _ nightly hvalues (fun _ ↦ hyaml) hjson).2, hyaml,
    ((load_of_save "conf/nested/client.YmL").2.2.2 _ _ nightly hvalues (fun _ ↦ hyaml) hnested).2⟩

end Store

end CallRouting
