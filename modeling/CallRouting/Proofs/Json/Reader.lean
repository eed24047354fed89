import CallRouting.Proofs.Json.Layout
import CallRouting.Proofs.Json.Value

/-!
# Steps of a reader

A reader takes a piece of a text and leaves the rest: `Leaves x a r` says that `x` is the answer `a`
with `r` left over. There is one lemma for each way in which a reader gets on, with any blanks in
front of the piece: a word, a text, a number, an empty or a full collection, and an item or a member
with what follows it. A text is read back character by character from its escapes.
-/

namespace CallRouting.Json

/-! ## Blanks -/

section Blanks

variable {blanks : List Char} (hblanks : ∀ c ∈ blanks, isSpace c = true)

include hblanks

theorem skipSpaces_append {c : Char} (hc : isSpace c = false) (r : List Char) :
    skipSpaces (blanks ++ c :: r) = c :: r := by
  rw [skipSpaces, List.dropWhile_append_of_pos hblanks, List.dropWhile_cons_of_neg]
  rw [hc]
  exact Bool.false_ne_true

theorem endsNumber_append {c : Char} (hc : c = ',' ∨ c = ']' ∨ c = '}') (r : List Char) :
    EndsNumber (blanks ++ c :: r) := by
  intro first hfirst
  cases blanks with
  | nil =>
    obtain rfl := Option.some.inj hfirst
    obtain rfl | rfl | rfl := hc <;> decide
  | cons b rest =>
    obtain rfl := Option.some.inj hfirst
    have hblank := hblanks b List.mem_cons_self
    simp only [isSpace, Bool.or_eq_true, beq_iff_eq] at hblank
    obtain ((rfl | rfl) | rfl) | rfl := hblank <;> decide

end Blanks

theorem skipSpaces_colon (r : List Char) : skipSpaces (':' :: r) = ':' :: r := rfl

theorem endsNumber_comma (r : List Char) : EndsNumber (',' :: r) :=
  endsNumber_append (List.forall_mem_nil _) (Or.inl rfl) r

/-! ## Texts -/

private theorem hexUnit?_hexDigit {n : ℕ} (h : n < 0x20) :
    hexUnit? '0' '0' (hexDigit (n / 16)) (hexDigit (n % 16)) = some n := by
  revert n
  decide

private theorem readText_shortEscape {letter c : Char} (h : shortEscape? letter = some c)
    (r : List Char) : readText ('\\' :: letter :: r) = (readText r).push c := by
  have hletter : letter ≠ 'u' := by
    rintro rfl
    cases h
  rw [readText]
  · rw [h]
  · exact fun _ _ _ _ _ heq _ ↦ hletter heq

/-- A character is read back from the way it is written. -/
theorem readText_escapeChar (c : Char) (r : List Char) :
    readText (escapeChar c ++ r) = (readText r).push c := by
  rw [escapeChar]
  split_ifs with hquote hslash hbackspace hfeed hline hreturn htab hcontrol
  · subst hquote
    exact readText_shortEscape rfl r
  · subst hslash
    exact readText_shortEscape rfl r
  · subst hbackspace
    exact readText_shortEscape rfl r
  · subst hfeed
    exact readText_shortEscape rfl r
  · subst hline
    exact readText_shortEscape rfl r
  · subst hreturn
    exact readText_shortEscape rfl r
  · subst htab
    exact readText_shortEscape rfl r
  · -- a control character without a letter of its own is no half of a surrogate pair
    have hhigh : isHighUnit c.toNat = false := by
      simp only [isHighUnit, Bool.and_eq_false_iff, decide_eq_false_iff_not]
      omega
    have hlow : isLowUnit c.toNat = false := by
      simp only [isLowUnit, Bool.and_eq_false_iff, decide_eq_false_iff_not]
      omega
    simp [readText, hexUnit?_hexDigit hcontrol, hhigh, hlow, Char.ofNat_toNat]
  · rw [List.singleton_append, readText]
    · simp [hslash, hcontrol]
    · simpa using hquote
    · simp_all
    · simp_all

theorem readText_flatMap (cs r : List Char) :
    readText (cs.flatMap escapeChar ++ '"' :: r) = some (some cs, r) := by
  induction cs with
  | nil => simp [readText]
  | cons c cs ih =>
    rw [List.flatMap_cons, List.append_assoc, readText_escapeChar, ih]
    rfl

/-! ## One step of a reader -/

/-- What was read, and what remains after it. -/
def Leaves {α : Type} {s : List Char} (x : α × Option (Rest s)) (a : α) (r : List Char) : Prop :=
  ∃ h, x = (a, some ⟨r, h⟩)

section Steps

variable {s r r' r'' : List Char}

theorem leaves_null (h : skipSpaces s = 'n' :: 'u' :: 'l' :: 'l' :: r) :
    Leaves (readValue s) .null r := by
  rw [readValue]
  split
  case h_1 r₁ hs =>
    cases hs.symm.trans h
    exact ⟨_, rfl⟩
  all_goals simp_all

theorem leaves_true (h : skipSpaces s = 't' :: 'r' :: 'u' :: 'e' :: r) :
    Leaves (readValue s) (.bool true) r := by
  rw [readValue]
  split
  case h_2 r₁ hs =>
    cases hs.symm.trans h
    exact ⟨_, rfl⟩
  all_goals simp_all

theorem leaves_false (h : skipSpaces s = 'f' :: 'a' :: 'l' :: 's' :: 'e' :: r) :
    Leaves (readValue s) (.bool false) r := by
  rw [readValue]
  split
  case h_3 r₁ hs =>
    cases hs.symm.trans h
    exact ⟨_, rfl⟩
  all_goals simp_all

theorem leaves_string {t : Option (List Char)} (h : skipSpaces s = '"' :: r)
    (ht : readText r = some (t, r')) : Leaves (readValue s) (.string (t.map String.ofList)) r' := by
  rw [readValue]
  split
  case h_4 r₁ hs =>
    cases hs.symm.trans h
    dsimp only
    split
    case h_1 t₁ r₂ ht₁ =>
      cases ht₁.symm.trans ht
      exact ⟨_, rfl⟩
    case h_2 ht₁ => cases ht₁.symm.trans ht
  all_goals simp_all

theorem leaves_number {c : Char} {l : Literal} (h : skipSpaces s = c :: r)
    (hc : c = '-' ∨ Decimal.isDigit c = true) (hl : readNumber (c :: r) = some (l, r')) :
    Leaves (readValue s) (.number l) r' := by
  rw [readValue]
  split
  case h_7 c₁ r₁ _ _ _ _ _ _ hs =>
    cases hs.symm.trans h
    rw [if_pos hc]
    split
    case h_1 l₁ r₂ hl₁ =>
      cases hl₁.symm.trans hl
      exact ⟨_, rfl⟩
    case h_2 hl₁ => cases hl₁.symm.trans hl
  case h_8 hs => cases hs.symm.trans h
  all_goals
    rename_i hs
    cases hs.symm.trans h
    simp [Decimal.isDigit] at hc

theorem leaves_array_nil (h : skipSpaces s = '[' :: r) (hr : skipSpaces r = ']' :: r') :
    Leaves (readValue s) (.array [] true) r' := by
  rw [readValue]
  split
  case h_5 r₁ hs =>
    cases hs.symm.trans h
    dsimp only
    split
    case h_1 r₂ hr₁ =>
      cases hr₁.symm.trans hr
      exact ⟨_, rfl⟩
    case h_2 hr₁ => exact absurd hr (hr₁ r')
  all_goals simp_all

theorem leaves_array {items : List Doc} {c : Char} (h : skipSpaces s = '[' :: r)
    (hr : skipSpaces r = c :: r') (hc : c ≠ ']') (hitems : Leaves (readItems r) items r'') :
    Leaves (readValue s) (.array items true) r'' := by
  obtain ⟨hlt, hitems⟩ := hitems
  rw [readValue]
  split
  case h_5 r₁ hs =>
    cases hs.symm.trans h
    dsimp only
    split
    case h_1 r₂ hr₁ =>
      cases hr₁.symm.trans hr
      exact absurd rfl hc
    case h_2 =>
      rw [hitems]
      exact ⟨_, rfl⟩
  all_goals simp_all

theorem leaves_object_nil (h : skipSpaces s = '{' :: r) (hr : skipSpaces r = '}' :: r') :
    Leaves (readValue s) (.object [] true) r' := by
  rw [readValue]
  split
  case h_6 r₁ hs =>
    cases hs.symm.trans h
    dsimp only
    split
    case h_1 r₂ hr₁ =>
      cases hr₁.symm.trans hr
      exact ⟨_, rfl⟩
    case h_2 hr₁ => exact absurd hr (hr₁ r')
  all_goals simp_all

theorem leaves_object {members : List (Doc × Doc)} {c : Char} (h : skipSpaces s = '{' :: r)
    (hr : skipSpaces r = c :: r') (hc : c ≠ '}') (hmembers : Leaves (readMembers r) members r'') :
    Leaves (readValue s) (.object members true) r'' := by
  obtain ⟨hlt, hmembers⟩ := hmembers
  rw [readValue]
  split
  case h_6 r₁ hs =>
    cases hs.symm.trans h
    dsimp only
    split
    case h_1 r₂ hr₁ =>
      cases hr₁.symm.trans hr
      exact absurd rfl hc
    case h_2 =>
      rw [hmembers]
      exact ⟨_, rfl⟩
  all_goals simp_all

theorem leaves_item {d : Doc} (hd : Leaves (readValue s) d r) (hr : skipSpaces r = ']' :: r') :
    Leaves (readItems s) [d] r' := by
  obtain ⟨hlt, hd⟩ := hd
  rw [readItems]
  split
  case h_1 d₁ hd₁ => cases hd₁.symm.trans hd
  case h_2 d₁ r₁ hlt₁ hd₁ =>
    cases hd₁.symm.trans hd
    split
    case h_2 r₂ hr₁ =>
      cases hr₁.symm.trans hr
      exact ⟨_, rfl⟩
    all_goals simp_all

theorem leaves_item_cons {d : Doc} {items : List Doc} (hd : Leaves (readValue s) d r)
    (hr : skipSpaces r = ',' :: r') (hitems : Leaves (readItems r') items r'') :
    Leaves (readItems s) (d :: items) r'' := by
  obtain ⟨hlt, hd⟩ := hd
  obtain ⟨hlt', hitems⟩ := hitems
  rw [readItems]
  split
  case h_1 d₁ hd₁ => cases hd₁.symm.trans hd
  case h_2 d₁ r₁ hlt₁ hd₁ =>
    cases hd₁.symm.trans hd
    split
    case h_1 r₂ hr₁ =>
      cases hr₁.symm.trans hr
      rw [hitems]
      exact ⟨_, rfl⟩
    all_goals simp_all

section Members

variable {r₁ r₂ r₃ r₄ : List Char} {t : Option (List Char)} {d : Doc} (h : skipSpaces s = '"' :: r)
  (ht : readText r = some (t, r₁)) (hcolon : skipSpaces r₁ = ':' :: r₂)
  (hd : Leaves (readValue r₂) d r₃)

include h ht hcolon hd

theorem leaves_member (hr : skipSpaces r₃ = '}' :: r₄) :
    Leaves (readMembers s) [(.string (t.map String.ofList), d)] r₄ := by
  obtain ⟨hlt, hd⟩ := hd
  rw [readMembers]
  split
  case h_1 r' hs =>
    cases hs.symm.trans h
    split
    case h_1 ht' => cases ht'.symm.trans ht
    case h_2 t' r₁' ht' =>
      cases ht'.symm.trans ht
      dsimp only
      split
      case h_1 r₂' hcolon' =>
        cases hcolon'.symm.trans hcolon
        rw [hd]
        dsimp only
        split
        case h_2 r₄' hr' =>
          cases hr'.symm.trans hr
          exact ⟨_, rfl⟩
        all_goals simp_all
      case h_2 hcolon' => exact absurd hcolon (hcolon' r₂)
  case h_2 hs => exact absurd h (hs r)

theorem leaves_member_cons {members : List (Doc × Doc)} (hr : skipSpaces r₃ = ',' :: r₄)
    (hmembers : Leaves (readMembers r₄) members r'') :
    Leaves (readMembers s) ((.string (t.map String.ofList), d) :: members) r'' := by
  obtain ⟨hlt, hd⟩ := hd
  obtain ⟨hlt', hmembers⟩ := hmembers
  rw [readMembers]
  split
  case h_1 r' hs =>
    cases hs.symm.trans h
    split
    case h_1 ht' => cases ht'.symm.trans ht
    case h_2 t' r₁' ht' =>
      cases ht'.symm.trans ht
      dsimp only
      split
      case h_1 r₂' hcolon' =>
        cases hcolon'.symm.trans hcolon
        rw [hd]
        dsimp only
        split
        case h_1 r₄' hr' =>
          cases hr'.symm.trans hr
          rw [hmembers]
          exact ⟨_, rfl⟩
        all_goals simp_all
      case h_2 hcolon' => exact absurd hcolon (hcolon' r₂)
  case h_2 hs => exact absurd h (hs r)

end Members

end Steps

end CallRouting.Json
