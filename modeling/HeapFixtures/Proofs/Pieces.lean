/-
# Pieces of a text

A text is split at a character in one pass over its bytes.  The pieces are those into which the
list of its characters is split, and all that is known of lists then holds of texts: the pieces
are free of the character, and a text that is put together from such pieces comes apart again in
the same places.
-/

import Mathlib.Data.String.Basic

namespace HeapFixtures
namespace Text

open String

/-- A place in a text is its end if nothing is left. -/
theorem atEnd_of_valid (front rest : List Char) :
    Pos.Raw.atEnd (ofList (front ++ rest)) ⟨utf8Len front⟩ = true ↔ rest = [] := by
  rw [atEnd_iff, rawEndPos_ofList, utf8Len_append, Pos.Raw.mk_le_mk, ← utf8Len_eq_zero]
  omega

/-- What is left of a text is split behind a piece that was begun. -/
theorem splitOnAux_singleton (c : Char) (front piece rest : List Char) (done : List String) :
    splitOnAux (ofList (front ++ piece ++ rest)) (ofList [c]) ⟨utf8Len front⟩
        ⟨utf8Len (front ++ piece)⟩ 0 done =
      done.reverse ++ (List.splitOnPPrepend (· == c) rest piece.reverse).map ofList := by
  induction rest generalizing front piece done with
  | nil =>
      have hpiece := extract_of_valid front piece []
      rw [← utf8Len_append] at hpiece
      rw [splitOnAux, if_pos ((atEnd_of_valid _ _).2 rfl)]
      simp only [hpiece]
      simp
  | cons d rest ih =>
      have hget := get_of_valid (front ++ piece) (d :: rest)
      have hnext := next_of_valid (front ++ piece) d rest
      have hsep : Pos.Raw.get (ofList [c]) 0 = c := get_of_valid [] [c]
      have hover : Pos.Raw.next (ofList [c]) 0 = ⟨utf8Len [c]⟩ := by
        simpa using next_of_valid [] c []
      have hdone : Pos.Raw.atEnd (ofList [c]) ⟨utf8Len [c]⟩ = true :=
        (atEnd_of_valid [c] []).2 rfl
      have hlast : utf8Len (front ++ piece) + d.utf8Size = utf8Len (front ++ piece ++ [d]) := by
        simp [utf8Len_append, Nat.add_assoc]
      rw [splitOnAux, if_neg (mt (atEnd_of_valid _ _).1 (List.cons_ne_nil d rest)), hget, hsep]
      simp only [List.headD_cons, hnext, hover, hlast]
      by_cases hd : d = c
      · subst hd
        have hpiece := extract_of_valid front piece (d :: rest)
        rw [← utf8Len_append] at hpiece
        have hback : (⟨utf8Len (front ++ piece ++ [d])⟩ : Pos.Raw).unoffsetBy ⟨utf8Len [d]⟩ =
            ⟨utf8Len (front ++ piece)⟩ := by
          simp [Pos.Raw.unoffsetBy, utf8Len_append, ← Nat.add_assoc]
        have hrest := ih (front ++ piece ++ [d]) [] (ofList piece :: done)
        simp only [List.append_nil, List.append_assoc, List.singleton_append] at hrest hback hpiece
        rw [if_pos (beq_self_eq_true d), if_pos hdone]
        simp only [List.append_assoc, hback, hpiece, hrest]
        rw [List.splitOnPPrepend_cons_pos (by simp)]
        simp
      · have hrest := ih front (piece ++ [d]) done
        rw [if_neg (by simpa using hd)]
        have hstay : (⟨utf8Len (front ++ piece)⟩ : Pos.Raw).unoffsetBy 0 =
            ⟨utf8Len (front ++ piece)⟩ := rfl
        simp only [List.append_assoc, List.singleton_append] at hrest hstay hnext hlast ⊢
        simp only [hstay, hnext, hlast, hrest]
        rw [List.splitOnPPrepend_cons_neg (by simpa using hd)]
        simp

/-- The pieces of a text between the places where a character stands. -/
def pieces (c : Char) (text : String) : List String :=
  (text.toList.splitOn c).map ofList

section Pieces

variable {c : Char} {text piece : String} {front back : List String}

/-- A text is split at a character where the list of its characters is. -/
theorem splitOn_eq_pieces (text : String) (c : Char) :
    text.splitOn (ofList [c]) = pieces c text := by
  have hsplit := splitOnAux_singleton c [] [] text.toList []
  simp only [List.nil_append, List.reverse_nil, String.ofList_toList] at hsplit
  rw [String.splitOn, if_neg (by simp), pieces, List.splitOn_eq_splitOnP,
    List.splitOnP_eq_splitOnPPrepend]
  exact hsplit

theorem pieces_ne_nil (c : Char) (text : String) : pieces c text ≠ [] := by
  simp [pieces, List.splitOn_ne_nil]

/-- No piece has the character. -/
theorem not_mem_of_mem_pieces (h : piece ∈ pieces c text) : c ∉ piece.toList := by
  obtain ⟨letters, hmem, rfl⟩ := List.mem_map.1 h
  rw [toList_ofList]
  generalize text.toList = whole at hmem
  clear h
  induction whole generalizing letters with
  | nil =>
      obtain rfl : letters = [] := by simpa using hmem
      exact List.not_mem_nil
  | cons d whole ih =>
      rw [List.splitOn_cons_eq_if_modifyHead] at hmem
      obtain ⟨first, others, hsplit⟩ := List.exists_cons_of_ne_nil (List.splitOn_ne_nil c whole)
      rw [hsplit] at hmem ih
      split at hmem
      · rcases List.mem_cons.1 hmem with rfl | hrest
        · exact List.not_mem_nil
        · exact ih letters hrest
      · next hd =>
          rcases List.mem_cons.1 hmem with rfl | hrest
          · have hfirst := ih first List.mem_cons_self
            have hne : c ≠ d := fun heq => hd (by simp [heq])
            simp [hfirst, hne]
          · exact ih letters (List.mem_cons_of_mem _ hrest)

/-- A text without the character is its only piece. -/
theorem pieces_of_not_mem (h : c ∉ text.toList) : pieces c text = [text] := by
  simp [pieces, List.splitOn_eq_singleton h]

/-- A text comes apart where the character stands. -/
theorem pieces_append (c : Char) (first second : String) :
    pieces c (first ++ ofList [c] ++ second) = pieces c first ++ pieces c second := by
  simp [pieces, List.splitOn_append_cons_self]

/-- The pieces of a text make up the text again. -/
theorem intercalate_pieces (c : Char) (text : String) :
    (ofList [c]).intercalate (pieces c text) = text := by
  rw [← String.toList_inj, String.toList_intercalate, pieces]
  simp [Function.comp_def, List.intercalate_splitOn]

/-- Texts without the character are the pieces of what they make up. -/
theorem pieces_intercalate (hne : front ≠ []) (h : ∀ piece ∈ front, c ∉ piece.toList) :
    pieces c ((ofList [c]).intercalate front) = front := by
  rw [pieces, String.toList_intercalate, toList_ofList, List.splitOn_intercalate c _ (by simpa)]
  · simp [Function.comp_def]
  · simpa using h

/-- Two rows of pieces are put together around one more place of the character. -/
theorem intercalate_append (c : Char) (hfront : front ≠ []) (hback : back ≠ []) :
    (ofList [c]).intercalate (front ++ back) =
      (ofList [c]).intercalate front ++ ofList [c] ++ (ofList [c]).intercalate back := by
  simp only [← String.toList_inj, String.toList_intercalate, String.toList_append,
    toList_ofList, List.map_append]
  induction front with
  | nil => exact absurd rfl hfront
  | cons piece rest ih =>
      by_cases hrest : rest = []
      · subst hrest
        simp [List.intercalate_cons_of_ne_nil, hback]
      · simp [List.intercalate_cons_of_ne_nil, hrest, ih hrest]

end Pieces

end Text
end HeapFixtures
