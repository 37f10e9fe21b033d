import WebhookWise.TextRewriting

/-!
# Untrusted text between fences

A text is put together from parts, some of which are a template's own and some of
which come from outside.  A fence is a run of one delimiter, and a part from outside
may close a block of the template early if it holds one.
-/

namespace Fences

open TextRewriting

universe u v

variable {Symbol : Type u}

/-! ## Runs of a delimiter -/

section Runs

variable (delimiter : Symbol)

/-- The text has that many delimiters in a row. -/
def HasFence (length : Nat) (text : List Symbol) : Prop :=
  List.replicate length delimiter <:+: text

variable [DecidableEq Symbol]

/-- The lengths of the longest runs of the delimiter, the first of which has begun
already.  Between two other symbols the run is empty. -/
def runsFrom (begun : Nat) : List Symbol → List Nat
  | [] => [begun]
  | symbol :: rest =>
      if symbol = delimiter then runsFrom (begun + 1) rest else begun :: runsFrom 0 rest

def runs (text : List Symbol) : List Nat :=
  runsFrom delimiter 0 text

instance (length : Nat) (text : List Symbol) : Decidable (HasFence delimiter length text) :=
  inferInstanceAs (Decidable (_ <:+: _))

theorem exists_runsFrom_eq (text : List Symbol) :
    ∃ first later, ∀ begun, runsFrom delimiter begun text = (begun + first) :: later := by
  induction text with
  | nil => exact ⟨0, [], fun _ => rfl⟩
  | cons symbol rest ih =>
      obtain ⟨first, later, rest_eq⟩ := ih
      by_cases same : symbol = delimiter
      · refine ⟨first + 1, later, fun begun => ?_⟩
        simp only [runsFrom, if_pos same, rest_eq]
        congr 1
        omega
      · exact ⟨0, runsFrom delimiter 0 rest, fun _ => by simp [runsFrom, same]⟩

theorem exists_runs_replicate_append (length : Nat) (rest : List Symbol) :
    ∃ first later, runs delimiter rest = first :: later ∧
      runs delimiter (List.replicate length delimiter ++ rest) = (length + first) :: later := by
  obtain ⟨first, later, rest_eq⟩ := exists_runsFrom_eq delimiter rest
  refine ⟨first, later, by simpa [runs] using rest_eq 0, ?_⟩
  have begun : ∀ begun, runsFrom delimiter begun (List.replicate length delimiter ++ rest) =
      (begun + length + first) :: later := by
    induction length with
    | zero => simpa using rest_eq
    | succ length ih =>
        intro begun
        simp only [List.replicate_succ, List.cons_append, runsFrom, if_pos]
        rw [ih]
        congr 2
        omega
  simpa [runs] using begun 0

variable {delimiter}

theorem runs_cons_of_ne {symbol : Symbol} (other : symbol ≠ delimiter) (rest : List Symbol) :
    runs delimiter (symbol :: rest) = 0 :: runs delimiter rest := by
  simp [runs, runsFrom, other]

end Runs

/-! ## Stretches of symbols of one kind -/

section Stretches

variable {Kind : Symbol → Prop} {stretch front back : List Symbol} {symbol : Symbol}

theorem prefix_of_prefix_append_cons (all : ∀ next ∈ stretch, Kind next) (other : ¬ Kind symbol)
    (starts : stretch <+: front ++ symbol :: back) : stretch <+: front := by
  induction front generalizing stretch with
  | nil =>
      cases stretch with
      | nil => exact List.nil_prefix
      | cons first rest =>
          have same : first = symbol := (List.cons_prefix_cons.1 starts).1
          exact absurd (all first (by simp)) (same ▸ other)
  | cons head front ih =>
      cases stretch with
      | nil => exact List.nil_prefix
      | cons first rest =>
          obtain ⟨same, starts⟩ := List.cons_prefix_cons.1 starts
          have shorter := ih (fun next member => all next (List.mem_cons_of_mem _ member)) starts
          exact List.cons_prefix_cons.2 ⟨same, shorter⟩

theorem infix_append_cons_iff (all : ∀ next ∈ stretch, Kind next) (other : ¬ Kind symbol) :
    stretch <:+: front ++ symbol :: back ↔ stretch <:+: front ∨ stretch <:+: back := by
  constructor
  · intro within
    induction front with
    | nil =>
        rcases List.infix_cons_iff.1 within with starts | within
        · exact Or.inl (prefix_of_prefix_append_cons all other starts).isInfix
        · exact Or.inr within
    | cons head front ih =>
        rcases List.infix_cons_iff.1 within with starts | within
        · exact Or.inl (prefix_of_prefix_append_cons all other starts).isInfix
        · rcases ih within with before | after
          · exact Or.inl (before.trans (List.suffix_cons _ _).isInfix)
          · exact Or.inr after
  · rintro (before | after)
    · exact before.trans (List.prefix_append _ _).isInfix
    · exact after.trans ((List.suffix_cons _ _).trans (List.suffix_append _ _)).isInfix

theorem hasFence_append_cons_iff {delimiter : Symbol} {length : Nat} (other : symbol ≠ delimiter) :
    HasFence delimiter length (front ++ symbol :: back) ↔
      HasFence delimiter length front ∨ HasFence delimiter length back :=
  @infix_append_cons_iff _ (fun next => next = delimiter) _ _ _ _
    (fun _ member => List.eq_of_mem_replicate member) other

end Stretches

/-! ## Parts -/

/-- Where a symbol comes from: the template, outside, or a replacement made later. -/
inductive Origin where
  | template
  | untrusted
  | replacement
deriving DecidableEq

structure TextPart (Symbol : Type u) where
  origin : Origin
  text : List Symbol

abbrev Traced (Symbol : Type u) := Symbol × Origin

def traced (origin : Origin) (text : List Symbol) : List (Traced Symbol) :=
  text.map fun symbol => (symbol, origin)

@[simp]
theorem map_fst_traced (origin : Origin) (text : List Symbol) :
    (traced origin text).map Prod.fst = text := by
  simp [traced, Function.comp_def]

@[simp]
theorem traced_cons (origin : Origin) (symbol : Symbol) (text : List Symbol) :
    traced origin (symbol :: text) = (symbol, origin) :: traced origin text := rfl

theorem snd_eq_of_mem_traced {origin : Origin} {text : List Symbol} {symbol : Traced Symbol}
    (member : symbol ∈ traced origin text) : symbol.2 = origin := by
  obtain ⟨_, _, rfl⟩ := List.mem_map.1 member
  rfl

def wholeText (parts : List (TextPart Symbol)) : List Symbol :=
  parts.flatMap TextPart.text

def wholeTraced (parts : List (TextPart Symbol)) : List (Traced Symbol) :=
  parts.flatMap fun part => traced part.origin part.text

theorem map_fst_wholeTraced (parts : List (TextPart Symbol)) :
    (wholeTraced parts).map Prod.fst = wholeText parts := by
  simp [wholeTraced, wholeText, List.map_flatMap]

section Separation

variable (delimiter : Symbol)

/-- What may follow a part.  Untrusted parts do not meet, and no delimiter of the
template touches one. -/
def TextPart.MayPrecede (part : TextPart Symbol) (successor : Option (TextPart Symbol)) : Prop :=
  match part.origin with
  | .template =>
      ∀ next ∈ successor, next.origin = .untrusted →
        ∃ final ∈ part.text.getLast?, final ≠ delimiter
  | .untrusted =>
      ∀ next ∈ successor, next.origin = .template ∧
        ∃ first ∈ next.text.head?, first ≠ delimiter
  | .replacement => False

/-- The template keeps the parts from outside apart. -/
def Separated : List (TextPart Symbol) → Prop
  | [] => True
  | part :: parts => part.MayPrecede delimiter parts.head? ∧ Separated parts

/-- Every fence in the text is the template's own. -/
def OnlyTemplateFences (length : Nat) (text : List (Traced Symbol)) : Prop :=
  ∀ stretch, stretch <:+: text → stretch.map Prod.fst = List.replicate length delimiter →
    ∀ symbol ∈ stretch, symbol.2 = .template

variable {delimiter} {parts : List (TextPart Symbol)} {stretch : List (Traced Symbol)}

private theorem TextPart.MayPrecede.template {part : TextPart Symbol}
    (precedes : part.MayPrecede delimiter parts.head?) (separated : Separated delimiter parts)
    (own : part.origin = .template) (ends : ∀ final ∈ part.text.getLast?, final = delimiter) :
    ∀ next ∈ parts.head?, next.origin = .template := by
  intro next isNext
  cases nextOrigin : next.origin with
  | template => rfl
  | untrusted =>
      simp only [TextPart.MayPrecede, own] at precedes
      obtain ⟨final, isFinal, other⟩ := precedes next isNext nextOrigin
      exact absurd (ends final isFinal) other
  | replacement =>
      obtain ⟨others, rfl⟩ := List.head?_eq_some_iff.1 isNext
      obtain ⟨impossible, _⟩ := separated
      simp [TextPart.MayPrecede, nextOrigin] at impossible

private theorem template_of_prefix (separated : Separated delimiter parts)
    (template : ∀ part ∈ parts.head?, part.origin = .template)
    (all : ∀ symbol ∈ stretch, symbol.1 = delimiter) (starts : stretch <+: wholeTraced parts) :
    ∀ symbol ∈ stretch, symbol.2 = .template := by
  induction parts generalizing stretch with
  | nil =>
      obtain rfl := List.prefix_nil.1 starts
      simp
  | cons part parts ih =>
      have own : part.origin = .template := template part (by simp)
      obtain ⟨precedes, separated⟩ := separated
      rw [wholeTraced, List.flatMap_cons, own] at starts
      rcases List.prefix_or_prefix_of_prefix starts (List.prefix_append _ _) with inside | beyond
      · exact fun symbol member => snd_eq_of_mem_traced (inside.subset member)
      · obtain ⟨rest, rfl⟩ := beyond
        have restStarts := (List.prefix_append_right_inj _).1 starts
        have ends : ∀ final ∈ part.text.getLast?, final = delimiter := by
          intro final isFinal
          have member : (final, Origin.template) ∈ traced .template part.text :=
            List.mem_map_of_mem (List.mem_of_getLast? isFinal)
          exact all _ (List.mem_append_left _ member)
        have restTemplate := ih separated (precedes.template separated own ends)
          (fun symbol member => all symbol (by simp [member])) restStarts
        intro symbol member
        rcases List.mem_append.1 member with inPart | inRest
        · exact snd_eq_of_mem_traced inPart
        · exact restTemplate symbol inRest

/-- A stretch of delimiters is the template's own or lies inside an untrusted part. -/
theorem template_or_mem_of_infix (separated : Separated delimiter parts)
    (all : ∀ symbol ∈ stretch, symbol.1 = delimiter) (within : stretch <:+: wholeTraced parts) :
    (∀ symbol ∈ stretch, symbol.2 = .template) ∨
      ∃ part ∈ parts, part.origin = .untrusted ∧ stretch <:+: traced .untrusted part.text := by
  induction parts with
  | nil =>
      obtain rfl := List.infix_nil.1 within
      simp
  | cons part parts ih =>
      obtain ⟨precedes, separated⟩ := separated
      rw [wholeTraced, List.flatMap_cons] at within
      rcases List.infix_append_iff_ne_nil.1 within with inside | later | crossing
      · cases own : part.origin with
        | template =>
            rw [own] at inside
            exact Or.inl fun symbol member => snd_eq_of_mem_traced (inside.subset member)
        | untrusted => exact Or.inr ⟨part, by simp, own, own ▸ inside⟩
        | replacement => simp [TextPart.MayPrecede, own] at precedes
      · rcases ih separated later with template | ⟨other, member, found⟩
        · exact Or.inl template
        · exact Or.inr ⟨other, List.mem_cons_of_mem _ member, found⟩
      · obtain ⟨front, back, frontNonempty, backNonempty, rfl, ends, starts⟩ := crossing
        have backAll : ∀ symbol ∈ back, symbol.1 = delimiter :=
          fun symbol member => all symbol (List.mem_append_right _ member)
        cases own : part.origin with
        | template =>
            rw [own] at ends
            have finals : ∀ final ∈ part.text.getLast?, final = delimiter := by
              intro final isFinal
              obtain ⟨earlier, whole⟩ := ends
              have isLast : (final, Origin.template) ∈ front.getLast? := by
                rw [← List.getLast?_append_of_ne_nil earlier frontNonempty, whole, traced,
                  List.getLast?_map, Option.mem_def.1 isFinal]
                rfl
              exact all _ (List.mem_append_left _ (List.mem_of_getLast? isLast))
            have backTemplate := template_of_prefix separated
              (precedes.template separated own finals) backAll starts
            refine Or.inl fun symbol member => ?_
            rcases List.mem_append.1 member with inFront | inBack
            · exact snd_eq_of_mem_traced (ends.subset inFront)
            · exact backTemplate symbol inBack
        | untrusted =>
            -- The template goes on with another symbol, where the stretch would go on.
            cases back with
            | nil => contradiction
            | cons symbol back =>
                cases parts with
                | nil => simp at starts
                | cons next parts =>
                    simp only [TextPart.MayPrecede, own] at precedes
                    obtain ⟨_, first, isFirst, other⟩ := precedes next (by simp)
                    obtain ⟨text, nextText⟩ := List.head?_eq_some_iff.1 isFirst
                    rw [List.flatMap_cons, nextText] at starts
                    have same : symbol = (first, next.origin) := (List.cons_prefix_cons.1 starts).1
                    have isDelimiter := backAll symbol (by simp)
                    rw [same] at isDelimiter
                    exact absurd isDelimiter other
        | replacement => simp [TextPart.MayPrecede, own] at precedes

variable {length : Nat}

theorem all_of_map_eq_replicate
    (fence : stretch.map Prod.fst = List.replicate length delimiter) :
    ∀ symbol ∈ stretch, symbol.1 = delimiter := by
  intro symbol member
  have inFence : symbol.1 ∈ stretch.map Prod.fst := List.mem_map_of_mem member
  rw [fence] at inFence
  exact List.eq_of_mem_replicate inFence

theorem onlyTemplateFences_iff (separated : Separated delimiter parts) (positive : 0 < length) :
    OnlyTemplateFences delimiter length (wholeTraced parts) ↔
      ∀ part ∈ parts, part.origin = .untrusted → ¬ HasFence delimiter length part.text := by
  constructor
  · intro only part member untrusted has
    have within : traced .untrusted (List.replicate length delimiter) <:+: wholeTraced parts := by
      have inPart : traced .untrusted (List.replicate length delimiter) <:+:
          traced part.origin part.text := untrusted ▸ has.map _
      obtain ⟨front, back, rfl⟩ := List.append_of_mem member
      rw [wholeTraced, List.flatMap_append, List.flatMap_cons]
      exact (List.infix_append_of_infix_left inPart).trans (List.suffix_append _ _).isInfix
    have template := only _ within (map_fst_traced _ _) (delimiter, .untrusted) (by
      simp [traced, Nat.pos_iff_ne_zero.1 positive])
    contradiction
  · intro none stretch within fence
    rcases template_or_mem_of_infix separated (all_of_map_eq_replicate fence) within with
      template | ⟨part, member, untrusted, inPart⟩
    · exact template
    · have has : stretch.map Prod.fst <:+: (traced .untrusted part.text).map Prod.fst :=
        inPart.map _
      rw [fence, map_fst_traced] at has
      exact absurd has (none part member untrusted)

end Separation

/-! ## Where a block ends -/

section Blocks

variable (delimiter : Symbol)

/-- The first fence of the text stands at a position. -/
def FirstFence (length position : Nat) (text : List Symbol) : Prop :=
  List.replicate length delimiter <+: text.drop position ∧
    ∀ earlier < position, ¬ List.replicate length delimiter <+: text.drop earlier

variable {delimiter} {length : Nat}

theorem firstFence_append_cons {block rest : List Symbol} {newline : Symbol}
    (none : ¬ HasFence delimiter length block) (other : newline ≠ delimiter) :
    FirstFence delimiter length (block.length + 1)
      (block ++ newline :: (List.replicate length delimiter ++ rest)) := by
  constructor
  · rw [List.drop_append, List.drop_of_length_le (Nat.le_succ _)]
    simp
  · intro earlier before starts
    rw [List.drop_append_of_le_length (Nat.lt_succ_iff.1 before)] at starts
    have inside := @prefix_of_prefix_append_cons _ (fun symbol => symbol = delimiter) _ _ _ _
      (fun _ member => List.eq_of_mem_replicate member) other starts
    exact none (inside.isInfix.trans (List.drop_suffix _ _).isInfix)

end Blocks

/-! ## Replacements -/

section Replacements

variable {State : Type v}

def ignoringOrigins (matcher : Matcher Symbol) : Matcher (Traced Symbol) :=
  fun before after => matcher (before.map Prod.fst) (after.map Prod.fst)

def Piece.untraced : Piece (Traced Symbol) → Piece Symbol
  | .passed symbol => .passed symbol.1
  | .matched first rest => .matched first.1 (rest.map Prod.fst)

theorem map_untraced_scan (matcher : Matcher Symbol) (before text : List (Traced Symbol))
    (skip : Nat) :
    (scan (ignoringOrigins matcher) before skip text).map Piece.untraced =
      scan matcher (before.map Prod.fst) skip (text.map Prod.fst) := by
  induction text generalizing before skip with
  | nil => rfl
  | cons symbol after ih =>
      cases skip with
      | succ skip => exact ih (symbol :: before) skip
      | zero =>
          simp only [scan, List.map_cons, ignoringOrigins] at ih ⊢
          split
          · simp [Piece.untraced, ih, List.map_take]
          · simp [Piece.untraced, ih]

def untraced (rewritten : List (Traced Symbol) × State) : List Symbol × State :=
  (rewritten.1.map Prod.fst, rewritten.2)

variable {replaceTraced : State → List (Traced Symbol) → List (Traced Symbol) × State}
  {replace : State → List Symbol → List Symbol × State}

theorem untraced_rewrite
    (same : ∀ state found, untraced (replaceTraced state found) =
      replace state (found.map Prod.fst))
    (state : State) (pieces : List (Piece (Traced Symbol))) :
    untraced (rewrite replaceTraced state pieces) =
      rewrite replace state (pieces.map Piece.untraced) := by
  induction pieces generalizing state with
  | nil => rfl
  | cons piece pieces ih =>
      cases piece with
      | passed symbol =>
          simp only [rewrite, List.map_cons, Piece.untraced]
          rw [← ih state]
          rfl
      | matched first rest =>
          have replaced := same state (first :: rest)
          simp only [rewrite, List.map_cons, Piece.untraced] at replaced ⊢
          rw [← replaced, ← ih]
          simp [untraced]

theorem untraced_rewrite_scan
    (same : ∀ state found, untraced (replaceTraced state found) =
      replace state (found.map Prod.fst))
    (matcher : Matcher Symbol) (state : State) (text : List (Traced Symbol)) :
    untraced (rewrite replaceTraced state (scan (ignoringOrigins matcher) [] 0 text)) =
      rewrite replace state (scan matcher [] 0 (text.map Prod.fst)) := by
  have pieces := map_untraced_scan matcher [] text 0
  rw [List.map_nil] at pieces
  rw [← pieces]
  exact untraced_rewrite same state _

end Replacements

end Fences
