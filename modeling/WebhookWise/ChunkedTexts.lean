import WebhookWise.KnowledgeBase
import Mathlib.Data.List.Chain

/-!
# What chunking keeps of a text

No paragraph has a blank line in it, and none begins or ends with white space.  So the blank lines
of a chunk are those that `chunk_text` put between the paragraphs, and without them the chunks are
the paragraphs again, one after another.
-/

namespace WebhookWise

namespace KnowledgeBase

/-! ## Blank lines -/

/-- `text.replace("\n\n", "")`. -/
def withoutSeparators : List Char → List Char
  | '\n' :: '\n' :: rest => withoutSeparators rest
  | character :: rest => character :: withoutSeparators rest
  | [] => []

/-- The characters are not two line breaks. -/
def NotBlank (first second : Char) : Prop :=
  first = '\n' → second ≠ '\n'

theorem withoutSeparators_cons {character : Char} {rest : List Char}
    (plain : character = '\n' → rest.head? ≠ some '\n') :
    withoutSeparators (character :: rest) = character :: withoutSeparators rest := by
  cases rest with
  | nil =>
      rw [withoutSeparators]
      rintro others - impossible
      cases impossible
  | cons next rest =>
      rw [withoutSeparators]
      rintro others rfl same
      exact plain rfl (by simpa using (List.cons.inj same).1)

theorem withoutSeparators_of_isChain {text : List Char} (chain : text.IsChain NotBlank) :
    withoutSeparators text = text := by
  induction text with
  | nil => rfl
  | cons character rest ih =>
      rw [withoutSeparators_cons, ih chain.tail]
      rintro rfl isHead
      obtain ⟨others, rfl⟩ := List.head?_eq_some_iff.1 isHead
      exact (List.isChain_cons_cons.1 chain).1 rfl rfl

theorem withoutSeparators_append (text rest : List Char) (ends : text.getLast? ≠ some '\n') :
    withoutSeparators (text ++ '\n' :: '\n' :: rest) =
      withoutSeparators text ++ withoutSeparators rest := by
  induction text using withoutSeparators.induct with
  | case1 others ih =>
      have later : others.getLast? ≠ some '\n' := by
        intro isLast
        cases others with
        | nil => cases isLast
        | cons first others =>
            rw [List.getLast?_cons_cons, List.getLast?_cons_cons] at ends
            exact ends isLast
      rw [List.cons_append, List.cons_append, withoutSeparators, withoutSeparators]
      cases others with
      | nil => simp at ends
      | cons first others => exact ih later
  | case2 character others apart ih =>
      have plain : character = '\n' → (others ++ '\n' :: '\n' :: rest).head? ≠ some '\n' := by
        rintro rfl isHead
        cases others with
        | nil => exact ends rfl
        | cons first others =>
            rw [List.cons_append, List.head?_cons, Option.some.injEq] at isHead
            exact apart others rfl (by rw [isHead])
      have alone : character = '\n' → others.head? ≠ some '\n' := by
        rintro rfl isHead
        obtain ⟨later, rfl⟩ := List.head?_eq_some_iff.1 isHead
        exact apart later rfl rfl
      rw [List.cons_append, withoutSeparators_cons plain, withoutSeparators_cons alone,
        List.cons_append]
      congr 1
      cases others with
      | nil => rfl
      | cons first others =>
          apply ih
          rwa [List.getLast?_cons_cons] at ends
  | case3 => rfl

/-! ## Paragraphs -/

theorem head?_of_afterBlankLine {rest : List Char} (none : afterBlankLine rest = none) :
    rest.head? ≠ some '\n' := by
  intro isHead
  obtain ⟨others, rfl⟩ := List.head?_eq_some_iff.1 isHead
  unfold afterBlankLine at none
  dsimp only at none
  split at none
  · rename_i noLines
    rw [List.isEmpty_iff, List.dropWhile_eq_nil_iff] at noLines
    have line := noLines '\n' (by
      rw [List.takeWhile_cons_of_pos (by decide)]
      simp)
    simp at line
  · cases none

theorem exists_lines_of_afterBlankLine {rest paragraph : List Char}
    (ends : afterBlankLine rest = some paragraph) :
    ∃ lines, rest = lines ++ paragraph ∧ ∀ character ∈ lines, isPythonSpace character = true := by
  unfold afterBlankLine at ends
  dsimp only at ends
  split at ends
  · cases ends
  · obtain rfl := Option.some.inj ends
    refine ⟨_, (List.take_append_drop _ rest).symm, fun character member => ?_⟩
    have short : ((rest.takeWhile isPythonSpace).reverse.dropWhile (· ≠ '\n')).length ≤
        (rest.takeWhile isPythonSpace).length := by
      have dropped := (List.dropWhile_suffix (l := (rest.takeWhile isPythonSpace).reverse)
        (· ≠ '\n')).length_le
      rwa [List.length_reverse] at dropped
    have within := (List.take_prefix_take_left (l := rest) short).subset member
    rw [← List.prefix_iff_eq_take.1 (List.takeWhile_prefix isPythonSpace)] at within
    exact List.mem_takeWhile_imp within

theorem isChain_of_mem_splitBlankLines {fuel : Nat} {current rest part : List Char}
    (enough : rest.length ≤ fuel) (chain : current.IsChain (flip NotBlank))
    (apart : current.head? = some '\n' → rest.head? ≠ some '\n')
    (member : part ∈ splitBlankLines fuel current rest) : part.IsChain NotBlank := by
  induction fuel generalizing current rest with
  | zero =>
      obtain rfl := List.length_eq_zero_iff.1 (Nat.le_zero.1 enough)
      rw [splitBlankLines, List.append_nil, List.mem_singleton] at member
      exact member ▸ List.isChain_reverse.2 chain
  | succ fuel ih =>
      cases rest with
      | nil =>
          rw [splitBlankLines, List.mem_singleton] at member
          exact member ▸ List.isChain_reverse.2 chain
      | cons next rest =>
          rw [splitBlankLines] at member
          have shorter : rest.length ≤ fuel := Nat.le_of_succ_le_succ enough
          split at member
          · rename_i paragraph ends
            rcases List.mem_cons.1 member with rfl | later
            · exact List.isChain_reverse.2 chain
            · have isBreak : afterBlankLine rest = some paragraph := by
                split at ends
                · exact ends
                · cases ends
              obtain ⟨lines, rfl, -⟩ := exists_lines_of_afterBlankLine isBreak
              rw [List.length_append] at shorter
              exact ih (by omega) .nil (by simp) later
          · rename_i goesOn
            refine ih shorter ?_ ?_ member
            · cases current with
              | nil => exact .singleton next
              | cons previous current =>
                  refine List.isChain_cons_cons.2 ⟨?_, chain⟩
                  rintro rfl rfl
                  exact apart rfl rfl
            · rintro isBreak
              obtain rfl : next = '\n' := by simpa using isBreak
              rw [if_pos rfl] at goesOn
              exact head?_of_afterBlankLine goesOn

theorem exists_part_of_mem {fuel : Nat} {current rest : List Char} {character : Char}
    (visible : isPythonSpace character = false) (member : character ∈ current ++ rest) :
    ∃ part ∈ splitBlankLines fuel current rest, character ∈ part := by
  induction fuel generalizing current rest with
  | zero => exact ⟨_, List.mem_singleton_self _, by simpa using member⟩
  | succ fuel ih =>
      cases rest with
      | nil => exact ⟨_, List.mem_singleton_self _, by simpa using member⟩
      | cons next rest =>
          rw [splitBlankLines]
          split
          · rename_i paragraph ends
            by_cases read : character ∈ current
            · exact ⟨_, List.mem_cons_self, List.mem_reverse.2 read⟩
            · have isBreak : next = '\n' ∧ afterBlankLine rest = some paragraph := by
                split at ends
                · rename_i same
                  exact ⟨same, ends⟩
                · cases ends
              obtain ⟨rfl, after⟩ := isBreak
              obtain ⟨lines, rfl, spaces⟩ := exists_lines_of_afterBlankLine after
              have later : character ∈ [] ++ paragraph := by
                simp only [List.mem_append, List.mem_cons, read, false_or] at member
                rcases member with rfl | inLines | inParagraph
                · exact absurd visible (by decide)
                · rw [spaces character inLines] at visible
                  cases visible
                · simpa using inParagraph
              obtain ⟨part, inside, has⟩ := ih later
              exact ⟨part, List.mem_cons_of_mem _ inside, has⟩
          · apply ih
            simp only [List.mem_append, List.mem_cons] at member ⊢
            tauto

/-! ## Stripping -/

variable (text : String)

theorem toList_strip : (strip text).toList =
    (text.toList.dropWhile isPythonSpace).rdropWhile isPythonSpace := by
  rw [strip, String.toList_ofList]
  rfl

theorem strip_infix : (strip text).toList <:+: text.toList := by
  rw [toList_strip]
  exact (List.rdropWhile_prefix _ _).isInfix.trans (List.dropWhile_suffix _).isInfix

theorem getLast?_strip : (strip text).toList.getLast? ≠ some '\n' := by
  rw [toList_strip]
  intro isLast
  have nonempty : (text.toList.dropWhile isPythonSpace).rdropWhile isPythonSpace ≠ [] := by
    intro empty
    rw [empty] at isLast
    cases isLast
  have visible := List.rdropWhile_last_not isPythonSpace _ nonempty
  rw [List.getLast_of_getLast?_eq_some isLast] at visible
  exact visible (by decide)

theorem exists_visible {text : String} (written : strip text ≠ "") :
    ∃ character ∈ text.toList, isPythonSpace character = false := by
  by_contra none
  apply written
  have spaces : ∀ character ∈ text.toList, isPythonSpace character = true := by
    intro character member
    by_contra visible
    exact none ⟨character, member, by simpa using visible⟩
  rw [← String.toList_inj, toList_strip, List.dropWhile_eq_nil_iff.2 spaces]
  rfl

/-- What `chunk_text` takes for a paragraph. -/
structure IsParagraph (para : String) : Prop where
  written : para ≠ ""
  chain : para.toList.IsChain NotBlank
  ends : para.toList.getLast? ≠ some '\n'

theorem isParagraph_of_mem {text para : String} (member : para ∈ paragraphs text) :
    IsParagraph para := by
  obtain ⟨inParts, written⟩ := List.mem_filter.1 member
  obtain ⟨part, isPart, rfl⟩ := List.mem_map.1 inParts
  refine ⟨of_decide_eq_true written, ?_, getLast?_strip _⟩
  have chain := isChain_of_mem_splitBlankLines (by rw [String.length_toList]) .nil (by simp) isPart
  have within := strip_infix (String.ofList part)
  rw [String.toList_ofList] at within
  exact chain.infix within

theorem paragraphs_ne_nil {text : String} (written : strip text ≠ "") : paragraphs text ≠ [] := by
  obtain ⟨character, member, visible⟩ := exists_visible written
  obtain ⟨part, isPart, has⟩ := @exists_part_of_mem text.length [] _ _ visible member
  have kept : character ∈ (strip (String.ofList part)).toList := by
    rwa [mem_strip_iff visible, String.toList_ofList]
  have isParagraph : strip (String.ofList part) ∈ paragraphs text := by
    refine List.mem_filter.2 ⟨List.mem_map_of_mem isPart, ?_⟩
    apply decide_eq_true
    intro empty
    rw [empty] at kept
    cases kept
  exact List.ne_nil_of_mem isParagraph

/-! ## Packing -/

variable {maxChars : Nat}

def textOf (chunks : List String) : List Char :=
  chunks.flatMap fun chunk => withoutSeparators chunk.toList

/-- A chunk of at most so many characters. -/
def Fits (maxChars : Nat) (chunk : String) : Prop :=
  chunk ≠ "" ∧ chunk.length ≤ maxChars

theorem hardSplit_spec {fuel : Nat} (positive : 0 < maxChars) {text : List Char}
    (enough : text.length ≤ fuel) (chain : text.IsChain NotBlank) :
    (∀ piece ∈ hardSplit maxChars fuel text, Fits maxChars piece) ∧
      textOf (hardSplit maxChars fuel text) = text := by
  induction fuel generalizing text with
  | zero =>
      obtain rfl := List.length_eq_zero_iff.1 (Nat.le_zero.1 enough)
      exact ⟨by simp [hardSplit], rfl⟩
  | succ fuel ih =>
      cases text with
      | nil => exact ⟨by simp [hardSplit], rfl⟩
      | cons first rest =>
          have shorter : ((first :: rest).drop maxChars).length ≤ fuel := by
            rw [List.length_drop]
            omega
          obtain ⟨fits, whole⟩ := ih shorter (chain.suffix (List.drop_suffix _ _))
          rw [hardSplit]
          · constructor
            · intro piece member
              rcases List.mem_cons.1 member with rfl | later
              · refine ⟨?_, ?_⟩
                · intro empty
                  have noText := congrArg String.toList empty
                  rw [String.toList_ofList] at noText
                  cases maxChars with
                  | zero => exact absurd positive (Nat.lt_irrefl 0)
                  | succ maxChars => cases noText
                · rw [String.length_ofList, List.length_take]
                  exact Nat.min_le_left _ _
              · exact fits piece later
            · have piece : ((first :: rest).take maxChars).IsChain NotBlank :=
                chain.prefix (List.take_prefix _ _)
              have first := withoutSeparators_of_isChain piece
              rw [textOf, List.flatMap_cons, String.toList_ofList, first, ← textOf, whole,
                List.take_append_drop]
          · intro empty
            cases empty

/-- What the loop has packed: chunks that fit, and a buffer that fits and can be gone on with. -/
structure Packed (maxChars : Nat) (done : List String) (packing : Packing) : Prop where
  fits : ∀ chunk ∈ packing.chunks, Fits maxChars chunk
  short : packing.buf.length ≤ maxChars
  ends : packing.buf.toList.getLast? ≠ some '\n'
  whole : textOf packing.chunks ++ withoutSeparators packing.buf.toList =
    done.flatMap String.toList

theorem textOf_append (first second : List String) :
    textOf (first ++ second) = textOf first ++ textOf second :=
  List.flatMap_append

theorem flushed (buf : String) :
    textOf (if buf = "" then [] else [buf]) = withoutSeparators buf.toList := by
  split
  · rename_i empty
    rw [empty]
    rfl
  · rw [textOf, List.flatMap_cons, List.flatMap_nil, List.append_nil]

theorem fits_flushed {buf chunk : String} (short : buf.length ≤ maxChars)
    (member : chunk ∈ if buf = "" then [] else [buf]) : Fits maxChars chunk := by
  split at member
  · cases member
  · rename_i written
    obtain rfl := List.mem_singleton.1 member
    exact ⟨written, short⟩

theorem packed_add (positive : 0 < maxChars) {done : List String} {packing : Packing}
    (packed : Packed maxChars done packing) {para : String} (isParagraph : IsParagraph para) :
    Packed maxChars (done ++ [para]) (packing.add maxChars para) := by
  have plain := withoutSeparators_of_isChain isParagraph.chain
  have onward : (done ++ [para]).flatMap String.toList =
      done.flatMap String.toList ++ para.toList := by simp
  unfold Packing.add
  by_cases long : maxChars < para.length
  · rw [if_pos long]
    obtain ⟨fits, whole⟩ :=
      hardSplit_spec positive (le_of_eq (String.length_toList (s := para))) isParagraph.chain
    refine ⟨?_, Nat.zero_le _, by simp, ?_⟩
    · intro chunk member
      simp only [List.mem_append] at member
      rcases member with (before | isBuf) | piece
      · exact packed.fits chunk before
      · exact fits_flushed packed.short isBuf
      · exact fits chunk piece
    · rw [textOf_append, textOf_append, flushed, packed.whole, whole, onward]
      exact List.append_nil _
  · rw [if_neg long]
    have paraFits : para.length ≤ maxChars := Nat.le_of_not_lt long
    by_cases empty : packing.buf = ""
    · have bufNothing := packed.whole
      rw [empty] at bufNothing
      simp only [empty, if_true, if_neg long]
      refine ⟨packed.fits, paraFits, isParagraph.ends, ?_⟩
      rw [plain, onward, ← bufNothing]
      simp [withoutSeparators]
    · simp only [if_neg empty]
      by_cases full : maxChars < (packing.buf ++ "\n\n" ++ para).length
      · rw [if_pos full]
        refine ⟨?_, paraFits, isParagraph.ends, ?_⟩
        · intro chunk member
          rcases List.mem_append.1 member with before | isBuf
          · exact packed.fits chunk before
          · obtain rfl := List.mem_singleton.1 isBuf
            exact ⟨empty, packed.short⟩
        · rw [textOf_append, onward, ← packed.whole, plain]
          simp [textOf]
      · rw [if_neg full]
        have joined : (packing.buf ++ "\n\n" ++ para).toList =
            packing.buf.toList ++ '\n' :: '\n' :: para.toList := by
          simp [String.toList_append]
        refine ⟨packed.fits, Nat.le_of_not_lt full, ?_, ?_⟩
        · obtain ⟨first, rest, begins⟩ := List.exists_cons_of_ne_nil fun nothing =>
            isParagraph.written (String.toList_eq_nil_iff.1 nothing)
          have ends := isParagraph.ends
          rw [joined, begins, List.getLast?_append_cons, List.getLast?_cons_cons,
            List.getLast?_cons_cons, ← begins]
          exact ends
        · rw [joined, withoutSeparators_append _ _ packed.ends, plain, onward, ← packed.whole,
            List.append_assoc]

theorem packed_foldl {maxChars : Nat} (positive : 0 < maxChars) {paras : List String}
    (areParagraphs : ∀ para ∈ paras, IsParagraph para) :
    Packed maxChars paras (paras.foldl (Packing.add maxChars) ⟨[], ""⟩) := by
  induction paras using List.reverseRecOn with
  | nil => exact ⟨by simp, Nat.zero_le _, by simp, rfl⟩
  | append_singleton paras last ih =>
      rw [List.foldl_append, List.foldl_cons, List.foldl_nil]
      exact packed_add positive
        (ih fun para member => areParagraphs para (List.mem_append_left _ member))
        (areParagraphs last (by simp))

theorem packedChunks_spec (positive : 0 < maxChars) (text : String) :
    (∀ chunk ∈ packedChunks text maxChars, Fits maxChars chunk) ∧
      textOf (packedChunks text maxChars) = (paragraphs text).flatMap String.toList := by
  have packed := @packed_foldl _ positive (paragraphs text) fun para => isParagraph_of_mem
  constructor
  · intro chunk member
    rcases List.mem_append.1 member with isFull | isBuf
    · exact packed.fits chunk isFull
    · exact fits_flushed packed.short isBuf
  · rw [packedChunks, textOf_append, flushed, packed.whole]

theorem chunkText_eq (positive : 0 < maxChars) (text : String) :
    chunkText text maxChars = packedChunks text maxChars := by
  unfold chunkText
  split
  · rename_i none
    rw [List.isEmpty_iff] at none
    rw [none]
    by_cases written : strip text = ""
    · rw [if_pos written]
    · obtain ⟨para, member⟩ := List.exists_mem_of_ne_nil _ (paragraphs_ne_nil written)
      have whole := (packedChunks_spec positive text).2
      rw [none] at whole
      have noText := List.flatMap_eq_nil_iff.1 whole.symm para member
      exact absurd (String.toList_eq_nil_iff.1 noText) (isParagraph_of_mem member).written
  · rfl

/-- Every chunk has something in it and fits, and without the separators the chunks are the
paragraphs of the text. -/
theorem chunkText_loses_nothing (text : String) (maxChars : Nat) (positive : 1 ≤ maxChars) :
    (∀ chunk ∈ chunkText text maxChars, chunk ≠ "" ∧ chunk.length ≤ maxChars) ∧
      ((chunkText text maxChars).flatMap fun chunk => withoutSeparators chunk.toList) =
        (paragraphs text).flatMap String.toList := by
  rw [chunkText_eq positive]
  exact packedChunks_spec positive text

theorem chunkText_loses_nothing_short :
    (∀ chunk ∈ chunkText "one\n \n two\n\nthree four" 9, chunk ≠ "" ∧ chunk.length ≤ 9) ∧
      ((chunkText "one\n \n two\n\nthree four" 9).flatMap fun chunk =>
          withoutSeparators chunk.toList) =
        (paragraphs "one\n \n two\n\nthree four").flatMap String.toList :=
  chunkText_loses_nothing "one\n \n two\n\nthree four" 9 (by decide)

end KnowledgeBase

end WebhookWise
