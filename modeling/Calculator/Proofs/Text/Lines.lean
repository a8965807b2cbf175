import Mathlib.Data.List.DropRight
import Mathlib.Data.List.Forall2
import Calculator.Text.Lines

namespace Calculator

/-- The pieces that a separator ends; what follows the last separator is a piece unless empty. -/
def pieces {α : Type} [DecidableEq α] (sep : α) : List α → List (List α)
  | [] => []
  | x :: xs =>
    if x = sep then [] :: pieces sep xs
    else match pieces sep xs with
      | [] => [[x]]
      | p :: ps => (x :: p) :: ps

def byteLines (bytes : ByteArray) : List (List UInt8) :=
  pieces 0x0A bytes.data.toList

def lineText? (line : List UInt8) : Option String :=
  String.fromUTF8? ⟨line.toArray⟩

/-- A byte stream is read up to its first line that is not UTF-8; this line and those after it are
lost. -/
structure ReadUpTo (bytes : ByteArray) (read lost : List (List UInt8)) : Prop where
  lines : byteLines bytes = read ++ lost
  decoded : ∀ line ∈ read, (lineText? line).isSome
  undecoded : ∀ line ∈ lost.head?, lineText? line = none

section
variable {c : Char} {cs : List Char} {line : String} {lines : List String}

theorem trimSpace_eq (cs : List Char) :
    trimSpace cs = (cs.dropWhile isSpace).rdropWhile isSpace := rfl

theorem dropWhile_trimSpace (cs : List Char) : (trimSpace cs).dropWhile isSpace = trimSpace cs := by
  rw [trimSpace_eq]
  cases hd : (cs.dropWhile isSpace).rdropWhile isSpace with
  | nil => rfl
  | cons c ds =>
    have hp := List.rdropWhile_prefix isSpace (cs.dropWhile isSpace)
    have hc := List.head?_dropWhile_not isSpace cs
    rw [hd] at hp
    obtain ⟨es, he⟩ := hp
    rw [← he] at hc
    apply List.dropWhile_cons_of_neg
    simpa using hc

theorem trimSpace_trimSpace (cs : List Char) : trimSpace (trimSpace cs) = trimSpace cs := by
  conv => lhs; rw [trimSpace_eq, dropWhile_trimSpace, trimSpace_eq]
  exact List.rdropWhile_idempotent isSpace _

theorem trimSpace_concat (hc : isSpace c) (cs : List Char) :
    trimSpace (cs ++ [c]) = trimSpace cs := by
  rw [trimSpace_eq, trimSpace_eq, List.dropWhile_append]
  split
  · next hn =>
    rw [List.isEmpty_iff.1 hn, List.dropWhile_cons_of_pos hc]
    rfl
  · exact List.rdropWhile_concat_pos isSpace _ _ hc

theorem trimSpace_dropLast (h : cs.getLast? = some c) (hc : isSpace c) :
    trimSpace cs.dropLast = trimSpace cs := by
  rw [← trimSpace_concat hc cs.dropLast, List.dropLast_append_getLast? c h]

theorem trimSpace_sublist (cs : List Char) : (trimSpace cs).Sublist cs :=
  (List.rdropWhile_prefix isSpace _).sublist.trans (List.dropWhile_sublist isSpace)

theorem trimSpace_withoutEnding (cs : List Char) :
    trimSpace (withoutEnding cs) = trimSpace cs := by
  rw [withoutEnding]
  split
  · next hf =>
    have hd := trimSpace_dropLast hf rfl
    split
    · next hr => exact (trimSpace_dropLast hr rfl).trans hd
    · exact hd
  · rfl

@[simp] theorem trimmed_trimmed (s : String) : trimmed (trimmed s) = trimmed s := by
  rw [trimmed, trimmed, String.toList_ofList, trimSpace_trimSpace]

theorem mem_nonBlank : line ∈ nonBlank lines ↔ (∃ l ∈ lines, trimmed l = line) ∧ line ≠ "" := by
  simp only [nonBlank, List.mem_filter, List.mem_map, decide_eq_true_eq]

/-- A line that was trimmed and found not blank is taken as it is when it comes alone. -/
theorem nonBlank_singleton (h : line ∈ nonBlank lines) : nonBlank [line] = [line] := by
  obtain ⟨⟨l, -, rfl⟩, hn⟩ := mem_nonBlank.1 h
  simp only [nonBlank, List.map_singleton, trimmed_trimmed]
  exact List.filter_cons_of_pos (decide_eq_true hn)

theorem nonBlank_congr {lines' : List String}
    (h : List.Forall₂ (fun l l' => trimmed l = trimmed l') lines lines') :
    nonBlank lines = nonBlank lines' := by
  have hm : lines.map trimmed = lines'.map trimmed := by
    induction h with
    | nil => rfl
    | cons hl h ih => rw [List.map_cons, List.map_cons, hl, ih]
  rw [nonBlank, nonBlank, hm]

end

section
variable {α β : Type} [DecidableEq α] [DecidableEq β] {sep x : α} {w xs : List α}

theorem pieces_sep (sep : α) (xs : List α) : pieces sep (sep :: xs) = [] :: pieces sep xs := by
  rw [pieces, if_pos rfl]

theorem pieces_cons (hx : x ≠ sep) (xs : List α) :
    pieces sep (x :: xs) = (x :: (pieces sep xs).headD []) :: (pieces sep xs).tail := by
  rw [pieces, if_neg hx]
  cases pieces sep xs <;> rfl

theorem segments_cons (hx : x ≠ sep) (xs : List α) :
    segments sep (x :: xs) = (x :: (segments sep xs).headD []) :: (segments sep xs).tail := by
  rw [segments, if_neg hx]
  cases segments sep xs <;> rfl

/-- A segment is its piece, together with the separator if there is one. -/
theorem segments_pieces (sep : α) (xs : List α) :
    List.Forall₂ (fun s p => s = p ∨ s = p ++ [sep]) (segments sep xs) (pieces sep xs) := by
  induction xs with
  | nil => exact .nil
  | cons x xs ih =>
    by_cases hx : x = sep
    · subst hx
      rw [segments, if_pos rfl, pieces_sep]
      exact .cons (.inr rfl) ih
    · rw [segments_cons hx, pieces_cons hx]
      generalize segments sep xs = ss, pieces sep xs = ps at ih ⊢
      cases ih with
      | nil => exact .cons (.inl rfl) .nil
      | cons hs h => exact .cons (hs.imp (congrArg _) (congrArg _)) h

theorem pieces_append (hs : sep ∉ w) (hw : w ≠ []) (xs : List α) :
    pieces sep (w ++ xs) = (w ++ (pieces sep xs).headD []) :: (pieces sep xs).tail := by
  induction w with
  | nil => exact absurd rfl hw
  | cons x w ih =>
    rw [List.mem_cons, not_or] at hs
    obtain ⟨hx, hs⟩ := hs
    rw [List.cons_append, pieces_cons (Ne.symm hx)]
    cases w with
    | nil => rfl
    | cons y w =>
      rw [ih hs (List.cons_ne_nil y w)]
      rfl

theorem pieces_ended (hs : sep ∉ w) (xs : List α) :
    pieces sep (w ++ sep :: xs) = w :: pieces sep xs := by
  cases w with
  | nil => exact pieces_sep sep xs
  | cons x w =>
    rw [pieces_append hs (List.cons_ne_nil x w), pieces_sep, List.headD_cons, List.append_nil,
      List.tail_cons]

/-- Pieces that are written with their separators are split into themselves. -/
theorem pieces_flatMap_ended {ws : List (List α)} (h : ∀ w ∈ ws, sep ∉ w) :
    pieces sep (ws.flatMap (· ++ [sep])) = ws := by
  induction ws with
  | nil => rfl
  | cons w ws ih =>
    obtain ⟨hw, h⟩ := List.forall_mem_cons.1 h
    rw [List.flatMap_cons, List.append_assoc, List.singleton_append, pieces_ended hw, ih h]

theorem sep_not_mem_of_mem_pieces (h : w ∈ pieces sep xs) : sep ∉ w := by
  induction xs generalizing w with
  | nil => cases h
  | cons x xs ih =>
    by_cases hx : x = sep
    · subst hx
      rw [pieces_sep] at h
      rcases List.mem_cons.1 h with rfl | h
      · exact List.not_mem_nil
      · exact ih h
    · rw [pieces_cons hx] at h
      rcases List.mem_cons.1 h with rfl | h
      · rw [List.mem_cons, not_or]
        refine ⟨Ne.symm hx, ?_⟩
        cases hp : pieces sep xs with
        | nil => exact List.not_mem_nil
        | cons p ps =>
          have hm : p ∈ pieces sep xs := by
            rw [hp]
            exact List.mem_cons_self
          exact ih hm
      · exact ih (List.mem_of_mem_tail h)

/-- If only the separator's code holds the coded separator, coding a text commutes with splitting
it. -/
theorem pieces_flatMap {code : α → List β} {sep' : β} (hsep : code sep = [sep'])
    (hc : ∀ x, x ≠ sep → code x ≠ [] ∧ sep' ∉ code x) (xs : List α) :
    pieces sep' (xs.flatMap code) = (pieces sep xs).map (·.flatMap code) := by
  induction xs with
  | nil => rfl
  | cons x xs ih =>
    rw [List.flatMap_cons]
    by_cases hx : x = sep
    · subst hx
      rw [hsep, List.singleton_append, pieces_sep, pieces_sep, ih]
      rfl
    · obtain ⟨hn, hm⟩ := hc x hx
      rw [pieces_append hm hn, pieces_cons hx, ih]
      cases pieces sep xs <;> simp

end

section
variable {c : Char} {bytes : ByteArray} {text : String} {line s : List UInt8}
  {read lost : List (List UInt8)}

theorem trimmed_eq_of_segment {s p : List Char} (h : s = p ∨ s = p ++ ['\n']) :
    trimmed (.ofList (withoutEnding s)) = trimmed (.ofList p) := by
  rw [trimmed, trimmed, String.toList_ofList, String.toList_ofList, trimSpace_withoutEnding]
  rcases h with rfl | rfl
  · rfl
  · exact congrArg _ (trimSpace_concat rfl p)

/-- The endings of the lines do not matter where the lines are trimmed. -/
theorem nonBlank_splitLines (cs : List Char) :
    nonBlank ((splitLines cs).map String.ofList) =
      nonBlank ((pieces '\n' cs).map String.ofList) := by
  apply nonBlank_congr
  rw [splitLines, List.map_map, List.forall₂_map_left_iff, List.forall₂_map_right_iff]
  exact (segments_pieces '\n' cs).imp fun s p => trimmed_eq_of_segment

/-- In UTF-8 a byte that stands for an ASCII character stands for it alone. -/
theorem toNat_of_mem_utf8EncodeChar {b : UInt8} (hb : b ∈ String.utf8EncodeChar c) :
    b.toNat = c.toNat ∨ 128 ≤ b.toNat := by
  change b.toNat = c.val.toNat ∨ 128 ≤ b.toNat
  unfold String.utf8EncodeChar at hb
  dsimp only at hb
  split at hb
  · cases List.mem_singleton.1 hb
    rw [UInt8.toNat_ofNat']
    omega
  · right
    have hn (n : Nat) (h : 128 ≤ n % 256) : 128 ≤ (UInt8.ofNat n).toNat := by
      rwa [UInt8.toNat_ofNat']
    split at hb
    · simp only [List.mem_cons, List.not_mem_nil, or_false] at hb
      rcases hb with rfl | rfl <;> apply hn <;> omega
    · split at hb
      · simp only [List.mem_cons, List.not_mem_nil, or_false] at hb
        rcases hb with rfl | rfl | rfl <;> apply hn <;> omega
      · simp only [List.mem_cons, List.not_mem_nil, or_false] at hb
        rcases hb with rfl | rfl | rfl | rfl <;> apply hn <;> omega

theorem lineFeed_not_mem_utf8EncodeChar (hc : c ≠ '\n') : 0x0A ∉ String.utf8EncodeChar c := by
  intro hb
  rcases toNat_of_mem_utf8EncodeChar hb with h | h
  · exact hc (Char.toNat_inj.1 h.symm)
  · exact absurd h (by decide)

theorem pieces_utf8Encode (cs : List Char) :
    pieces 0x0A (cs.flatMap String.utf8EncodeChar) =
      (pieces '\n' cs).map (·.flatMap String.utf8EncodeChar) := by
  have hs : String.utf8EncodeChar '\n' = [0x0A] := rfl
  apply pieces_flatMap hs
  intro c hc
  exact ⟨String.utf8EncodeChar_ne_nil, lineFeed_not_mem_utf8EncodeChar hc⟩

theorem fromUTF8?_encode (cs : List Char) :
    String.fromUTF8? ⟨(cs.flatMap String.utf8EncodeChar).toArray⟩ = some (String.ofList cs) := by
  have he : (⟨(cs.flatMap String.utf8EncodeChar).toArray⟩ : ByteArray) = cs.utf8Encode := by
    apply ByteArray.ext
    rw [← Array.toList_inj, List.utf8Encode, List.toList_data_toByteArray]
  rw [he, String.fromUTF8?, dif_pos ByteArray.isValidUTF8_utf8Encode]
  rfl

theorem fromUTF8?_toByteArray (text : String) : String.fromUTF8? text.toByteArray = some text := by
  rw [String.fromUTF8?, dif_pos text.isValidUTF8]
  rfl

theorem toList_of_fromUTF8? (h : String.fromUTF8? bytes = some text) :
    bytes.data.toList = text.toList.flatMap String.utf8EncodeChar := by
  have hb : bytes = text.toList.utf8Encode := by
    unfold String.fromUTF8? at h
    split at h
    · cases h
      rw [← String.toByteArray_ofList, String.ofList_toList]
      rfl
    · cases h
  rw [hb, List.utf8Encode, List.toList_data_toByteArray]

/-- No line feed is cut out of another character, so if a stream is UTF-8 as a whole then so is each
of its lines by itself. -/
theorem map_lineText?_byteLines (h : String.fromUTF8? bytes = some text) :
    (byteLines bytes).map lineText? = ((pieces '\n' text.toList).map String.ofList).map some := by
  rw [byteLines, toList_of_fromUTF8? h, pieces_utf8Encode, List.map_map, List.map_map]
  apply List.map_congr_left
  intro cs _
  exact fromUTF8?_encode cs

theorem isSome_lineText? (h : String.fromUTF8? bytes = some text) :
    ∀ line ∈ byteLines bytes, (lineText? line).isSome := by
  intro line hl
  have hm := List.mem_map_of_mem (f := lineText?) hl
  rw [map_lineText?_byteLines h] at hm
  obtain ⟨l, -, hs⟩ := List.mem_map.1 hm
  rw [← hs, Option.isSome_some]

theorem lineText?_line_feed (line : List UInt8) :
    lineText? (line ++ [0x0A]) = (lineText? line).map (·.push '\n') := by
  cases h : lineText? line with
  | some text =>
    have he : line = text.toList.flatMap String.utf8EncodeChar := toList_of_fromUTF8? h
    have hl : line ++ [0x0A] = (text.toList ++ ['\n']).flatMap String.utf8EncodeChar := by
      rw [List.flatMap_append, ← he]
      rfl
    rw [hl, lineText?, fromUTF8?_encode, Option.map_some, ← String.toList_push,
      String.ofList_toList]
  | none =>
    cases h' : lineText? (line ++ [0x0A]) with
    | none => rfl
    | some text =>
      have he : line ++ [0x0A] = text.toList.flatMap String.utf8EncodeChar :=
        toList_of_fromUTF8? h'
      rcases List.eq_nil_or_concat text.toList with ht | ⟨cs, c, ht⟩
      · rw [ht] at he
        exact absurd he (List.append_ne_nil_of_right_ne_nil _ (List.cons_ne_nil _ _))
      · rw [ht, List.concat_eq_append, List.flatMap_append, List.flatMap_singleton] at he
        have hg := congrArg List.getLast? he
        rw [List.getLast?_concat, List.getLast?_append_of_ne_nil _ String.utf8EncodeChar_ne_nil]
          at hg
        have hc : c = '\n' := by
          by_contra hn
          exact lineFeed_not_mem_utf8EncodeChar hn (List.mem_of_getLast? hg.symm)
        subst hc
        rw [List.append_cancel_right he, lineText?, fromUTF8?_encode] at h
        cases h

theorem rel_lineText?_of_segment (h : s = line ∨ s = line ++ [0x0A]) :
    Option.Rel (fun t t' => trimmed (.ofList (withoutEnding t.toList)) = trimmed t')
      (lineText? s) (lineText? line) := by
  rcases h with rfl | rfl
  · cases lineText? s with
    | none => exact .none
    | some text => exact .some (by rw [trimmed_eq_of_segment (.inl rfl), String.ofList_toList])
  · rw [lineText?_line_feed]
    cases lineText? line with
    | none => exact .none
    | some text =>
      refine .some ?_
      rw [String.toList_push, trimmed_eq_of_segment (.inr rfl), String.ofList_toList]

theorem forall₂_takeWhile_isSome {α β : Type} {r : α → β → Prop} {as : List (Option α)}
    {bs : List (Option β)} (h : List.Forall₂ (Option.Rel r) as bs) :
    List.Forall₂ r ((as.takeWhile Option.isSome).filterMap id)
      ((bs.takeWhile Option.isSome).filterMap id) := by
  induction h with
  | nil => exact .nil
  | cons hr h ih =>
    cases hr with
    | some hr => exact .cons hr ih
    | none => exact .nil

theorem exists_readUpTo (bytes : ByteArray) : ∃ read lost, ReadUpTo bytes read lost := by
  refine ⟨(byteLines bytes).takeWhile fun line => (lineText? line).isSome,
    (byteLines bytes).dropWhile fun line => (lineText? line).isSome, ?_, ?_, ?_⟩
  · exact List.takeWhile_append_dropWhile.symm
  · exact fun line => List.mem_takeWhile_imp
  · intro line hl
    have hn := List.head?_dropWhile_not (fun line => (lineText? line).isSome) (byteLines bytes)
    rw [Option.mem_def.1 hl] at hn
    simpa using hn

theorem ReadUpTo.read_eq (h : ReadUpTo bytes read lost) :
    read = (byteLines bytes).takeWhile fun line => (lineText? line).isSome := by
  rw [h.lines, List.takeWhile_append_of_pos h.decoded]
  cases lost with
  | nil => rw [List.takeWhile_nil, List.append_nil]
  | cons line lost =>
    rw [List.takeWhile_cons, h.undecoded line rfl]
    exact (List.append_nil read).symm

/-- Of a byte stream the lines before the first one that is not UTF-8 are read, and no others. -/
theorem ReadUpTo.nonBlank_linesOfStream (h : ReadUpTo bytes read lost) :
    nonBlank (linesOfStream bytes) = nonBlank (read.filterMap lineText?) := by
  have hr : read.filterMap lineText? =
      (((byteLines bytes).map lineText?).takeWhile Option.isSome).filterMap id := by
    rw [List.takeWhile_map, List.filterMap_map, h.read_eq]
    rfl
  apply nonBlank_congr
  rw [hr, linesOfStream, List.forall₂_map_left_iff]
  apply forall₂_takeWhile_isSome
  rw [List.forall₂_map_left_iff, List.forall₂_map_right_iff]
  exact (segments_pieces 0x0A bytes.data.toList).imp fun s p => rel_lineText?_of_segment

theorem ReadUpTo.eq_nil (h : ReadUpTo bytes read lost) (ht : String.fromUTF8? bytes = some text) :
    lost = [] := by
  cases lost with
  | nil => rfl
  | cons line lost =>
    have hm : line ∈ byteLines bytes := by simp [h.lines]
    have hd := isSome_lineText? ht line hm
    rw [h.undecoded line rfl] at hd
    cases hd

/-- A byte stream that is UTF-8 as a whole has the lines of its text. -/
theorem nonBlank_linesOfStream (h : String.fromUTF8? bytes = some text) :
    nonBlank (linesOfStream bytes) = nonBlank (linesOfText text) := by
  have hr : ReadUpTo bytes (byteLines bytes) [] :=
    ⟨(List.append_nil _).symm, isSome_lineText? h, nofun⟩
  have hm := congrArg (List.filterMap id) (map_lineText?_byteLines h)
  rw [List.filterMap_map, List.filterMap_map] at hm
  have hl : (byteLines bytes).filterMap lineText? = (pieces '\n' text.toList).map String.ofList :=
    hm.trans List.filterMap_some
  rw [hr.nonBlank_linesOfStream, hl, linesOfText, nonBlank_splitLines]

end

end Calculator
