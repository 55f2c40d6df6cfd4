import HubRelay.Proofs.Text.Lines
import HubRelay.Text.Blank
import Mathlib.Data.List.Infix

/-!
# How texts begin

Whether a text starts with another (`hasPrefix`) is decided by the parts that the text is put together
from. A text that begins with no white space is left as it is when the white space at its start is taken
away (`trimStart`). Where the first part of a text ends can be told if something follows it that cannot
belong to it (`eq_of_append_eq_append`), and where its last part begins if a mark stands before it
(`eq_of_append_cons_eq_append_cons`).
-/

set_option autoImplicit false

namespace HubRelay.Text

/-! ### Starts of texts -/

/-- Whether a text starts with another. -/
def hasPrefix (front text : String) : Bool := front.toList.isPrefixOf text.toList

theorem hasPrefix_iff {front text : String} :
    hasPrefix front text = true ↔ front.toList <+: text.toList := List.isPrefixOf_iff_prefix

/-- A text starts with what comes first in it. -/
@[simp] theorem hasPrefix_append (front rest : String) : hasPrefix front (front ++ rest) = true := by
  rw [hasPrefix_iff, String.toList_append]
  exact List.prefix_append _ _

/-- Whether a text starts with two others is seen after the first. -/
theorem hasPrefix_append_append (front next rest : String) :
    hasPrefix (front ++ next) (front ++ rest) = hasPrefix next rest := by
  rw [Bool.eq_iff_iff, hasPrefix_iff, hasPrefix_iff, String.toList_append, String.toList_append,
    List.prefix_append_right_inj]

/-- The first character of a text that is spelled out, and of a text that goes on behind it. -/
theorem head?_toList_literal {text : String} {c : Char} {cs : List Char}
    (htext : text = String.ofList (c :: cs)) (rest : String) :
    text.toList.head? = some c ∧ (text ++ rest).toList.head? = some c := by
  subst htext
  rw [String.toList_append, String.toList_ofList]
  exact ⟨rfl, rfl⟩

/-- Whether a text starts with another, when both are spelled out and something may follow. -/
theorem hasPrefix_literal {front text : String} {cs ds : List Char} (hfront : front = String.ofList cs)
    (htext : text = String.ofList ds) (hlength : cs.length ≤ ds.length) (rest : String) :
    hasPrefix front (text ++ rest) = cs.isPrefixOf ds := by
  subst hfront htext
  rw [Bool.eq_iff_iff, hasPrefix_iff, List.isPrefixOf_iff_prefix, String.toList_append,
    String.toList_ofList, String.toList_ofList]
  exact ⟨fun h ↦ List.prefix_of_prefix_length_le h (List.prefix_append _ _) hlength,
    fun h ↦ h.trans (List.prefix_append _ _)⟩

/-- A text whose first character is another does not start so. -/
theorem hasPrefix_eq_false {front text : String} (hne : front ≠ "")
    (h : front.toList.head? ≠ text.toList.head?) : hasPrefix front text = false := by
  rw [← Bool.not_eq_true, hasPrefix_iff]
  rintro ⟨rest, hrest⟩
  refine h ?_
  have hcons : front.toList ≠ [] := fun hnil ↦ hne (String.toList_eq_nil_iff.mp hnil)
  rw [← hrest, List.head?_append_of_ne_nil _ hcons]

/-- A character that the start does not have does not help to complete it. -/
theorem hasPrefix_append_of_notMem {front text rest : String} {c : Char}
    (hc : c ∉ front.toList) (hrest : rest.toList.head? = some c) :
    hasPrefix front (text ++ rest) = hasPrefix front text := by
  rw [Bool.eq_iff_iff, hasPrefix_iff, hasPrefix_iff, String.toList_append]
  refine ⟨fun h ↦ ?_, fun h ↦ h.trans (List.prefix_append _ _)⟩
  rcases List.prefix_or_prefix_of_prefix h (List.prefix_append _ _) with hshort | ⟨more, hmore⟩
  · exact hshort
  · rw [← hmore, List.prefix_append_right_inj] at h
    cases more with
    | nil =>
      rw [List.append_nil] at hmore
      rw [hmore]
    | cons d more =>
      obtain ⟨others, hothers⟩ := h
      rw [← hothers] at hrest
      obtain rfl := Option.some.inj hrest
      exact absurd (hmore ▸ List.mem_append_right _ List.mem_cons_self) hc

/-! ### White space -/

/-- The text without the white space it begins with. -/
def trimStart (text : String) : String := String.ofList (text.toList.dropWhile isBlank)

/-- A text on one line that does not begin with white space. -/
def IsFlush (text : String) : Prop :=
  IsOneLine text ∧ ∀ c ∈ text.toList.head?, isBlank c = false

instance (text : String) : Decidable (IsFlush text) :=
  @instDecidableAnd _ _ _ (Option.decidableForallMem text.toList.head?)

/-- A text that begins with no white space has none in front of it to take away. -/
theorem dropWhile_isBlank_of_isFlush {text : String} (h : IsFlush text) :
    text.toList.dropWhile isBlank = text.toList := by
  obtain ⟨-, hhead⟩ := h
  cases hlist : text.toList with
  | nil => rfl
  | cons c rest =>
    rw [hlist] at hhead
    have hc : ¬ isBlank c = true := by rw [hhead c rfl]; exact Bool.false_ne_true
    rw [List.dropWhile_cons, if_neg hc]

/-! ### Texts in parts -/

section Parts

variable {α : Type}

/-- Assumes: two ways to part a list, in both of which all of the first part is of a kind, and what
follows it is not. They are the same. -/
theorem eq_of_append_eq_append {p : α → Bool} {front front' back back' : List α}
    (hfront : ∀ a ∈ front, p a = true) (hfront' : ∀ a ∈ front', p a = true)
    (hback : ∀ a ∈ back.head?, p a = false) (hback' : ∀ a ∈ back'.head?, p a = false)
    (h : front ++ back = front' ++ back') : front = front' ∧ back = back' := by
  have htake {front back : List α} (hfront : ∀ a ∈ front, p a = true)
      (hback : ∀ a ∈ back.head?, p a = false) : (front ++ back).takeWhile p = front := by
    have hnone : back.takeWhile p = [] := by
      cases back with
      | nil => rfl
      | cons a rest =>
        rw [List.takeWhile_cons_of_neg]
        rw [hback a rfl]
        exact Bool.false_ne_true
    rw [List.takeWhile_append_of_pos hfront, hnone, List.append_nil]
  obtain rfl : front = front' := by rw [← htake hfront hback, h, htake hfront' hback']
  exact ⟨rfl, List.append_cancel_left h⟩

/-- A mark that the last parts do not have in them tells where they begin. -/
theorem eq_of_append_cons_eq_append_cons [DecidableEq α] {mark : α} {front front' back back' : List α}
    (hback : mark ∉ back) (hback' : mark ∉ back') (h : front ++ mark :: back = front' ++ mark :: back') :
    front = front' ∧ back = back' := by
  have hother {back : List α} (hmark : mark ∉ back) : ∀ a ∈ back.reverse, (a != mark) = true := by
    intro a ha
    rw [bne_iff_ne]
    rintro rfl
    exact hmark (List.mem_reverse.mp ha)
  have hmark (front : List α) : ∀ a ∈ (mark :: front).head?, (a != mark) = false := by
    rintro a ha
    rw [← Option.some.inj ha, bne_self_eq_false]
  have hreverse := congrArg List.reverse h
  simp only [List.reverse_append, List.reverse_cons, List.append_assoc, List.singleton_append]
    at hreverse
  obtain ⟨hsame, hrest⟩ :=
    eq_of_append_eq_append (hother hback) (hother hback') (hmark _) (hmark _) hreverse
  exact ⟨List.reverse_injective (List.cons.inj hrest).2, List.reverse_injective hsame⟩

end Parts

end HubRelay.Text
