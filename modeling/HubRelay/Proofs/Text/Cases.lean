import HubRelay.Proofs.Text.Lines
import HubRelay.Text.CaseMap
import Mathlib.Data.Bool.AllAny
import Mathlib.Data.List.Basic

/-!
# Characters that case mappings do not make

The tables of the case mappings lead to letters and marks, and neither to line breaks nor to the signs that
part the entries of a declaration or have a meaning in a quoted text. Whether a table leads to a character
is computed (`avoids`). A character that is mapped to one that the tables avoid is therefore this one itself
(`ne_of_mem_mapCase`): small letters bring no sign into a text (`notMem_toLower`), and neither does a capital
(`notMem_capitalize`). No text with a capital begins with a small letter of ASCII
(`notMem_smallLetters_of_mem_head?_capitalize`).
-/

set_option autoImplicit false

namespace HubRelay.Text

/-! ### Tables -/

/-- Whether the tables of a case mapping lead to other code points only. -/
def avoids (shifts : List (Progression × Nat)) (expansions : List (Nat × List Nat)) (code : Nat) : Bool :=
  (shifts.all fun entry ↦
      Nat.blt code entry.2 || Nat.blt (entry.2 + (entry.1.last - entry.1.first)) code) &&
    expansions.all fun entry ↦ entry.2.all (Nat.beq code · == false)

/-- Whether the tables of a case mapping lead out of a range of code points only. The tables are gone
through once for all code points in the range. -/
def avoidsBetween (shifts : List (Progression × Nat)) (expansions : List (Nat × List Nat))
    (low high : Nat) : Bool :=
  (shifts.all fun entry ↦
      Nat.blt high entry.2 || Nat.blt (entry.2 + (entry.1.last - entry.1.first)) low) &&
    expansions.all fun entry ↦ entry.2.all fun code ↦ Nat.blt code low || Nat.blt high code

theorem avoids_of_avoidsBetween {shifts : List (Progression × Nat)} {expansions : List (Nat × List Nat)}
    {low high : Nat} (h : avoidsBetween shifts expansions low high = true) {code : Nat}
    (hlow : low ≤ code) (hhigh : code ≤ high) : avoids shifts expansions code = true := by
  obtain ⟨hshifts, hexpansions⟩ := Bool.and_eq_true_iff.mp h
  refine Bool.and_eq_true_iff.mpr ⟨List.all_eq_true.mpr fun entry hentry ↦ ?_,
    List.all_eq_true.mpr fun entry hentry ↦ List.all_eq_true.mpr fun other hother ↦ ?_⟩
  · have hthis := List.all_eq_true.mp hshifts entry hentry
    simp only [Bool.or_eq_true, Nat.blt_eq] at hthis ⊢
    omega
  · have hthis := List.all_eq_true.mp (List.all_eq_true.mp hexpansions entry hentry) other hother
    simp only [Bool.or_eq_true, Nat.blt_eq] at hthis
    have hne : Nat.beq code other = false := Bool.eq_false_iff.mpr fun heq ↦ by
      have hsame := Nat.eq_of_beq_eq_true heq
      omega
    rw [hne]
    rfl

/-- Small letters are no other characters of ASCII than the small letters there, and neither control
characters nor punctuation. -/
theorem avoids_lower {code : Nat}
    (h : code ≤ 0x60 ∨ 0x7B ≤ code ∧ code ≤ 0x9F ∨ 0x2000 ≤ code ∧ code ≤ 0x206F) :
    avoids lowerShifts lowerExpansions code = true := by
  have htables : (avoidsBetween lowerShifts lowerExpansions 0 0x60 &&
      (avoidsBetween lowerShifts lowerExpansions 0x7B 0x9F &&
        avoidsBetween lowerShifts lowerExpansions 0x2000 0x206F)) = true := by decide
  simp only [Bool.and_eq_true] at htables
  obtain ⟨hfirst, hmiddle, hlast⟩ := htables
  obtain hhigh | ⟨hlow, hhigh⟩ | ⟨hlow, hhigh⟩ := h
  · exact avoids_of_avoidsBetween hfirst (Nat.zero_le _) hhigh
  · exact avoids_of_avoidsBetween hmiddle hlow hhigh
  · exact avoids_of_avoidsBetween hlast hlow hhigh

/-- Capitals are no other characters of ASCII than the capitals there. -/
theorem avoids_upper {code : Nat} (h : code ≤ 0x40 ∨ 0x5B ≤ code ∧ code ≤ 0x7F) :
    avoids upperShifts upperExpansions code = true := by
  have htables : (avoidsBetween upperShifts upperExpansions 0 0x40 &&
      avoidsBetween upperShifts upperExpansions 0x5B 0x7F) = true := by decide
  obtain ⟨hfirst, hlast⟩ := Bool.and_eq_true_iff.mp htables
  obtain hhigh | ⟨hlow, hhigh⟩ := h
  · exact avoids_of_avoidsBetween hfirst (Nat.zero_le _) hhigh
  · exact avoids_of_avoidsBetween hlast hlow hhigh

/-- A code point that is not the one of a character does not stand for it, be it valid or not. -/
theorem ofNat_ne {code : Nat} {sign : Char} (hcode : code ≠ sign.toNat) (hsign : sign.toNat ≠ 0) :
    Char.ofNat code ≠ sign := by
  have hvalue : (Char.ofNat code).toNat = code ∨ (Char.ofNat code).toNat = 0 := by
    by_cases hvalid : code.isValidChar
    · rw [Char.ofNat, dif_pos hvalid]
      exact .inl rfl
    · rw [Char.ofNat, dif_neg hvalid]
      exact .inr rfl
  rintro rfl
  exact hvalue.elim (fun h ↦ hcode h.symm) hsign

/-- A case mapping makes a character out of one that a table leads from, or leaves it as it is. -/
theorem cases_of_mem_mapCase {shifts : List (Progression × Nat)} {expansions : List (Nat × List Nat)}
    {c d : Char} (h : d ∈ mapCase shifts expansions c) :
    (∃ codes, (c.toNat, codes) ∈ expansions ∧ ∃ code ∈ codes, Char.ofNat code = d) ∨
      (∃ run target, (run, target) ∈ shifts ∧ run.first ≤ c.toNat ∧ c.toNat ≤ run.last ∧
        Char.ofNat (target + (c.toNat - run.first)) = d) ∨ d = c := by
  rw [mapCase] at h
  split at h
  · next codes hcodes =>
    obtain ⟨before, after, hsplit, -⟩ := List.lookup_eq_some_iff.mp hcodes
    exact .inl ⟨codes, by simp [hsplit], List.mem_map.mp h⟩
  · split at h
    · next run target hrun =>
      have hholds := List.find?_some hrun
      simp only [Progression.holds, Bool.and_eq_true, decide_eq_true_eq] at hholds
      exact .inr (.inl ⟨run, target, List.mem_of_find?_eq_some hrun, hholds.1.1, hholds.1.2,
        (List.mem_singleton.mp h).symm⟩)
    · exact .inr (.inr (List.mem_singleton.mp h))

/-- A case mapping makes a character that its tables avoid out of no other. -/
theorem ne_of_mem_mapCase {shifts : List (Progression × Nat)} {expansions : List (Nat × List Nat)}
    {sign : Char} (h : avoids shifts expansions sign.toNat = true) (hsign : sign.toNat ≠ 0) {c : Char}
    (hc : c ≠ sign) : ∀ d ∈ mapCase shifts expansions c, d ≠ sign := by
  obtain ⟨hshifts, hexpansions⟩ := Bool.and_eq_true_iff.mp h
  intro d hd
  obtain ⟨codes, hcodes, code, hcode, rfl⟩ | ⟨run, target, hrun, hfirst, hlast, rfl⟩ | rfl :=
    cases_of_mem_mapCase hd
  · have hother := eq_of_beq (List.all_eq_true.mp (List.all_eq_true.mp hexpansions _ hcodes) code hcode)
    refine ofNat_ne (fun heq ↦ ?_) hsign
    rw [heq, Nat.beq_refl] at hother
    cases hother
  · have hentry := List.all_eq_true.mp hshifts _ hrun
    simp only [Bool.or_eq_true, Nat.blt_eq] at hentry
    exact ofNat_ne (by omega) hsign
  · exact hc

/-! ### Small letters -/

section SmallLetters

variable {sign : Char} (h : avoids lowerShifts lowerExpansions sign.toNat = true)
  (hsign : sign.toNat ≠ 0) (hsigma : sign ≠ 'ς' ∧ sign ≠ 'σ')

include h hsign hsigma

/-- Small letters bring no sign into a run of characters that small letters are not. -/
theorem notMem_lowerCaseAfter {cs : List Char} (hcs : sign ∉ cs) (before : List Char) :
    sign ∉ lowerCaseAfter before cs := by
  induction cs generalizing before with
  | nil => exact List.not_mem_nil
  | cons c rest ih =>
    obtain ⟨hc, hrest⟩ := not_or.mp (List.mem_cons.not.mp hcs)
    rw [lowerCaseAfter, List.mem_append, not_or]
    refine ⟨?_, ih hrest _⟩
    split
    · split
      · exact List.mem_singleton.not.mpr hsigma.1
      · exact List.mem_singleton.not.mpr hsigma.2
    · exact fun hmem ↦ ne_of_mem_mapCase h hsign (Ne.symm hc) sign hmem rfl

theorem notMem_toLower {text : String} (htext : sign ∉ text.toList) : sign ∉ (toLower text).toList := by
  rw [toLower, String.toList_ofList]
  exact notMem_lowerCaseAfter h hsign hsigma htext []

end SmallLetters

theorem isOneLine_toLower {text : String} (h : IsOneLine text) : IsOneLine (toLower text) := by
  exact ⟨notMem_toLower (avoids_lower (by decide)) (by decide) (by decide) h.1,
    notMem_toLower (avoids_lower (by decide)) (by decide) (by decide) h.2⟩

/-! ### Capitals -/

/-- A capital brings no sign into a text that capitals are not. -/
theorem notMem_capitalize {sign : Char} (h : avoids upperShifts upperExpansions sign.toNat = true)
    (hsign : sign.toNat ≠ 0) {text : String} (htext : sign ∉ text.toList) :
    sign ∉ (capitalize text).toList := by
  rw [capitalize]
  split
  · exact List.not_mem_nil
  · next c rest hlist =>
    rw [hlist, List.mem_cons, not_or] at htext
    rw [String.toList_ofList, List.mem_append, not_or]
    exact ⟨fun hmem ↦ ne_of_mem_mapCase h hsign (Ne.symm htext.1) sign hmem rfl, htext.2⟩

/-- A character has a capital form. -/
theorem upperCase_ne_nil (c : Char) : upperCase c ≠ [] := by
  have hexpansions : upperExpansions.all (fun entry ↦ !entry.2.isEmpty) = true := by decide
  rw [upperCase, mapCase]
  split
  · next codes hcodes =>
    obtain ⟨before, after, hsplit, -⟩ := List.lookup_eq_some_iff.mp hcodes
    have hentry := List.all_eq_true.mp hexpansions (c.toNat, codes) (by simp [hsplit])
    cases codes with
    | nil => cases hentry
    | cons code rest => exact List.cons_ne_nil _ _
  · split <;> exact List.cons_ne_nil _ _

/-- A text that is not empty is not empty with a capital. -/
theorem capitalize_ne_empty {text : String} (h : text ≠ "") : capitalize text ≠ "" := by
  rw [capitalize]
  split
  · next hlist => exact absurd (String.toList_eq_nil_iff.mp hlist) h
  · next c rest hlist =>
    intro hempty
    rw [← String.toList_eq_nil_iff, String.toList_ofList, List.append_eq_nil_iff] at hempty
    exact upperCase_ne_nil c hempty.1

/-! ### What a text with a capital begins with -/

/-- The small letters of ASCII. -/
def smallLetters : List Char :=
  ['a', 'b', 'c', 'd', 'e', 'f', 'g', 'h', 'i', 'j', 'k', 'l', 'm', 'n', 'o', 'p', 'q', 'r', 's', 't', 'u',
    'v', 'w', 'x', 'y', 'z']

/-- The first entry of the table has the small letters of ASCII. -/
theorem upperShifts_eq_cons : upperShifts = (⟨0x61, 0x7A, 1⟩, 0x41) :: upperShifts.tail := rfl

/-- The capital of a small letter of ASCII. -/
theorem upperCase_eq_singleton {small : Char} (h : 0x61 ≤ small.toNat ∧ small.toNat ≤ 0x7A) :
    upperCase small = [Char.ofNat (0x41 + (small.toNat - 0x61))] := by
  have hkeys : upperExpansions.all (fun entry ↦ Nat.blt 0x7A entry.1) = true := by decide
  have hnone : upperExpansions.lookup small.toNat = none := by
    refine List.lookup_eq_none_iff.mpr fun entry hentry ↦ ?_
    have hkey := Nat.blt_eq.mp (List.all_eq_true.mp hkeys entry hentry)
    exact bne_iff_ne.mpr (by omega)
  have hholds : Progression.holds ⟨0x61, 0x7A, 1⟩ small.toNat = true := by
    simp [Progression.holds, h, Nat.mod_one]
  have hfirst : upperShifts.find? (·.1.holds small.toNat) = some (⟨0x61, 0x7A, 1⟩, 0x41) := by
    rw [upperShifts_eq_cons]
    exact List.find?_cons_of_pos hholds
  rw [upperCase, mapCase, hnone, hfirst]

/-- Small letters are no capitals, of their own or of others. -/
theorem notMem_upperCase_of_mem_smallLetters {small : Char} (h : small ∈ smallLetters) (c : Char) :
    small ∉ upperCase c := by
  have hletters : ∀ d ∈ smallLetters, 0x61 ≤ d.toNat ∧ d.toNat ≤ 0x7A :=
    List.all_iff_forall_prop.mp (by decide)
  obtain ⟨hlow, hhigh⟩ := hletters small h
  have hzero : small.toNat ≠ 0 := by omega
  intro hmem
  by_cases hc : c = small
  · rw [hc, upperCase_eq_singleton ⟨hlow, hhigh⟩, List.mem_singleton] at hmem
    exact ofNat_ne (by omega) hzero hmem.symm
  · exact ne_of_mem_mapCase (avoids_upper (by omega)) hzero hc small hmem rfl

/-- A text with a capital begins with the capital of its first character. -/
theorem mem_upperCase_of_mem_head?_capitalize {text : String} {d : Char}
    (h : d ∈ (capitalize text).toList.head?) : ∃ c ∈ text.toList.head?, d ∈ upperCase c := by
  rw [capitalize] at h
  split at h
  · cases h
  · next c rest hlist =>
    rw [String.toList_ofList, List.head?_append_of_ne_nil _ (upperCase_ne_nil c)] at h
    exact ⟨c, hlist ▸ rfl, List.mem_of_mem_head? h⟩

/-- A text with a capital begins with no small letter of ASCII. -/
theorem notMem_smallLetters_of_mem_head?_capitalize {text : String} {d : Char}
    (h : d ∈ (capitalize text).toList.head?) : d ∉ smallLetters := by
  obtain ⟨c, -, hd⟩ := mem_upperCase_of_mem_head?_capitalize h
  exact fun hsmall ↦ notMem_upperCase_of_mem_smallLetters hsmall c hd

/-- A capital brings no `@` to the start of a text. -/
theorem at_notMem_head?_capitalize {text : String} (h : '@' ∉ text.toList.head?) :
    '@' ∉ (capitalize text).toList.head? := by
  intro hmem
  obtain ⟨c, hc, hd⟩ := mem_upperCase_of_mem_head?_capitalize hmem
  have hother : c ≠ '@' := by
    rintro rfl
    exact h hc
  exact ne_of_mem_mapCase (avoids_upper (by decide)) (by decide) hother '@' hd rfl

/-- `C` is the capital of no character but `c` and itself. -/
theorem eq_of_mem_upperCase {c : Char} (h : 'C' ∈ upperCase c) : c = 'c' ∨ c = 'C' := by
  -- Only the first entry of the table leads to `C`.
  have htables : avoidsBetween upperShifts.tail upperExpansions 0x43 0x43 = true := by decide
  obtain ⟨hshifts, hexpansions⟩ := Bool.and_eq_true_iff.mp htables
  have hcode {code : Nat} (hcode : Char.ofNat code = 'C') : code = 0x43 := by
    by_contra hne
    exact ofNat_ne hne (by decide) hcode
  obtain ⟨codes, hcodes, code, hmem, hd⟩ | ⟨run, target, hrun, hfirst, hlast, hd⟩ | hd :=
    cases_of_mem_mapCase h
  · have hother := List.all_eq_true.mp (List.all_eq_true.mp hexpansions _ hcodes) code hmem
    rw [hcode hd] at hother
    cases hother
  · have htarget := hcode hd
    have hsmall : c.toNat = 0x63 := by
      rcases List.mem_cons.mp (upperShifts_eq_cons ▸ hrun) with hhead | htail
      · obtain ⟨rfl, rfl⟩ := Prod.mk.inj hhead
        dsimp only at hfirst htarget
        omega
      · have hentry := List.all_eq_true.mp hshifts _ htail
        simp only [Bool.or_eq_true, Nat.blt_eq] at hentry
        omega
    exact .inl (Char.toNat_inj.mp hsmall)
  · exact .inr hd.symm

/-- A text that begins with `C` is, with a capital, only itself and the text that begins with `c`
instead. -/
theorem capitalize_eq_iff {text : String} {rest : List Char} :
    capitalize text = String.ofList ('C' :: rest) ↔
      text = String.ofList ('c' :: rest) ∨ text = String.ofList ('C' :: rest) := by
  have hupper : upperCase 'c' = ['C'] ∧ upperCase 'C' = ['C'] :=
    ⟨upperCase_eq_singleton (by decide), by decide⟩
  constructor
  · intro h
    have hhead : 'C' ∈ (capitalize text).toList.head? := by
      rw [h, String.toList_ofList]
      rfl
    obtain ⟨c, hc, hmem⟩ := mem_upperCase_of_mem_head?_capitalize hhead
    obtain ⟨more, hlist⟩ := List.head?_eq_some_iff.mp hc
    have htext : capitalize text = String.ofList (upperCase c ++ more) := by
      rw [capitalize, hlist]
    have hsame := String.ofList_injective (htext.symm.trans h)
    rw [← String.ofList_toList (s := text), hlist]
    obtain rfl | rfl := eq_of_mem_upperCase hmem
    · rw [hupper.1] at hsame
      exact .inl (congrArg _ (congrArg _ (List.cons.inj hsame).2))
    · rw [hupper.2] at hsame
      exact .inr (congrArg _ (congrArg _ (List.cons.inj hsame).2))
  · rintro (rfl | rfl)
    · rw [capitalize, String.toList_ofList]
      dsimp only
      rw [hupper.1]
      rfl
    · rw [capitalize, String.toList_ofList]
      dsimp only
      rw [hupper.2]
      rfl

theorem isOneLine_capitalize {text : String} (h : IsOneLine text) : IsOneLine (capitalize text) := by
  exact ⟨notMem_capitalize (avoids_upper (by decide)) (by decide) h.1,
    notMem_capitalize (avoids_upper (by decide)) (by decide) h.2⟩

end HubRelay.Text
