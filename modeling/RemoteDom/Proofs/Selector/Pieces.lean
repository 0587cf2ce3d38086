import RemoteDom.Proofs.Selector.PathText

/-! Two expressions that differ in the wording of literals only. They are taken for two sides of one list of pieces,
which are literals and single characters. No place where an expression is cut is inside of a literal, so that both sides
have the same steps, but for the wording. -/

namespace RemoteDom.Selector.Path

def isQuote (c : Char) : Bool := c == '\'' || c == '"'

inductive Side where
  | first
  | second
deriving DecidableEq, Repr

structure Quoted where
  quote : Char
  wording : Side → List Char
  isQuote : isQuote quote = true
  free : ∀ side, quote ∉ wording side

/-- A literal, or a character outside of all literals. -/
inductive Piece where
  | bare (c : Char) (unquoted : isQuote c = false)
  | literal (quoted : Quoted)

namespace Piece

def sign : Piece → Char
  | bare c _ => c
  | literal quoted => quoted.quote

def text (side : Side) : Piece → List Char
  | bare c _ => [c]
  | literal quoted => quoted.quote :: quoted.wording side ++ [quoted.quote]

def quoted? : Piece → Option Quoted
  | bare _ _ => none
  | literal quoted => some quoted

end Piece

def written (side : Side) (pieces : List Piece) : List Char := pieces.flatMap (Piece.text side)

def literals (pieces : List Piece) : List Quoted := pieces.filterMap Piece.quoted?

@[simp]
theorem written_nil (side : Side) : written side [] = [] := rfl

@[simp]
theorem written_append (side : Side) (first second : List Piece) :
    written side (first ++ second) = written side first ++ written side second :=
  List.flatMap_append

@[simp]
theorem written_bare (side : Side) (c : Char) (unquoted : isQuote c = false) (rest : List Piece) :
    written side (.bare c unquoted :: rest) = c :: written side rest := rfl

theorem written_literal (side : Side) (quoted : Quoted) (rest : List Piece) :
    written side (.literal quoted :: rest) =
      quoted.quote :: (quoted.wording side ++ quoted.quote :: written side rest) := by
  simp [written, Piece.text]

theorem exists_written_cons (side : Side) (piece : Piece) (rest : List Piece) :
    ∃ more, written side (piece :: rest) = piece.sign :: more := by
  cases piece with
  | bare c _ => exact ⟨_, rfl⟩
  | literal quoted => exact ⟨_, written_literal side quoted rest⟩

@[simp]
theorem literals_append (first second : List Piece) : literals (first ++ second) = literals first ++ literals second :=
  List.filterMap_append

@[simp]
theorem literals_bare (c : Char) (unquoted : isQuote c = false) (rest : List Piece) :
    literals (.bare c unquoted :: rest) = literals rest := rfl

private theorem literals_flatMap {α : Type} (write : α → List Piece) (items : List α) :
    literals (items.flatMap write) = items.flatMap fun item => literals (write item) := by
  induction items with
  | nil => rfl
  | cons item rest ih => simp [ih]

private theorem Quoted.ne_of_isQuote_eq_false (quoted : Quoted) {c : Char} (unquoted : Path.isQuote c = false) :
    quoted.quote ≠ c := by
  rintro rfl
  exact Bool.noConfusion (unquoted.symm.trans quoted.isQuote)

section Quotes

variable {n : Nesting} {quote : Char} {inner : List Char}

private theorem feed_of_isQuote (unquoted : n.quote = none) (quotes : isQuote quote = true) :
    n.feed quote = { n with quote := some quote } := by
  have either : quote = '\'' ∨ quote = '"' := by simpa [isQuote] using quotes
  simp [Nesting.feed, unquoted, either]

private theorem feed_of_unquoted (unquoted : n.quote = none) {c : Char} (bare : isQuote c = false) :
    (n.feed c).quote = none := by
  have neither : ¬ (c = '\'' ∨ c = '"') := by simpa [isQuote] using bare
  grind [Nesting.feed]

private theorem feedAll_inside (quoted : n.quote = some quote) (free : quote ∉ inner) : n.feedAll inner = n := by
  induction inner with
  | nil => rfl
  | cons c rest ih =>
      have later := List.not_mem_of_not_mem_cons free
      rw [Nesting.feedAll_cons, Nesting.feed_of_quoted quoted (List.ne_of_not_mem_cons free).symm, ih later]

private theorem uncut_inside {cuts : List Char → Char → Prop} (quoted : n.quote = some quote) (free : quote ∉ inner)
    (read : List Char) : Uncut cuts n read inner := by
  induction inner generalizing read with
  | nil => trivial
  | cons c rest ih =>
      refine ⟨fun cut => absurd cut.1 (by simp [Nesting.outside, quoted]), ?_⟩
      rw [Nesting.feed_of_quoted quoted (List.ne_of_not_mem_cons free).symm]
      exact ih (List.not_mem_of_not_mem_cons free) (c :: read)

private theorem feedAll_literal (unquoted : n.quote = none) (quotes : isQuote quote = true) (free : quote ∉ inner) :
    n.feedAll (quote :: inner ++ [quote]) = n := by
  have closed : ({ n with quote := some quote } : Nesting).feed quote = n := by
    simp [Nesting.feed, ← unquoted]
  rw [List.cons_append, Nesting.feedAll_cons, feed_of_isQuote unquoted quotes, Nesting.feedAll_append,
    feedAll_inside rfl free]
  exact closed

private theorem uncut_literal (unquoted : n.quote = none) (quotes : isQuote quote = true) (free : quote ∉ inner)
    (read : List Char) : Uncut EndsAt n read (quote :: inner ++ [quote]) := by
  refine ⟨fun cut => ?_, ?_⟩
  · rw [show quote = '/' from cut.2] at quotes
    exact absurd quotes (by decide)
  · have still : ({ n with quote := some quote } : Nesting).feedAll inner = { n with quote := some quote } :=
      feedAll_inside rfl free
    rw [feed_of_isQuote unquoted quotes]
    refine uncut_append.mpr ⟨uncut_inside rfl free _, ?_⟩
    rw [still]
    exact ⟨fun cut => absurd cut.1 (by simp [Nesting.outside]), trivial⟩

end Quotes

private theorem quote_feedAll_written (side : Side) (pieces : List Piece) {n : Nesting} (unquoted : n.quote = none) :
    (n.feedAll (written side pieces)).quote = none := by
  induction pieces generalizing n with
  | nil => exact unquoted
  | cons piece rest ih =>
      cases piece with
      | bare c bare => exact ih (feed_of_unquoted unquoted bare)
      | literal quoted =>
          have passed : n.feedAll (Piece.text side (.literal quoted)) = n :=
            feedAll_literal unquoted quoted.isQuote (quoted.free side)
          change (n.feedAll (Piece.text side (.literal quoted) ++ written side rest)).quote = none
          rw [Nesting.feedAll_append, passed]
          exact ih unquoted

theorem exists_written {n : Nesting} (unquoted : n.quote = none) (text : List Char)
    (closed : (n.feedAll text).quote = none) : ∃ pieces, ∀ side, written side pieces = text := by
  match text with
  | [] => exact ⟨[], fun _ => rfl⟩
  | c :: rest =>
      cases quotes : isQuote c with
      | false =>
          obtain ⟨pieces, parts⟩ := exists_written (feed_of_unquoted unquoted quotes) rest closed
          exact ⟨.bare c quotes :: pieces, fun side => by rw [written_bare, parts]⟩
      | true =>
          rw [Nesting.feedAll_cons, feed_of_isQuote unquoted quotes] at closed
          have member : c ∈ rest := by
            by_contra free
            rw [feedAll_inside rfl free] at closed
            cases closed
          obtain ⟨inner, behind, rfl, free⟩ := List.eq_append_cons_of_mem member
          have later : (n.feedAll behind).quote = none := by
            have passed := feedAll_literal unquoted quotes free
            rw [List.cons_append, Nesting.feedAll_cons, feed_of_isQuote unquoted quotes] at passed
            rwa [List.append_cons, Nesting.feedAll_append, passed] at closed
          obtain ⟨pieces, parts⟩ := exists_written unquoted behind later
          refine ⟨.literal ⟨c, fun _ => inner, quotes, fun _ => free⟩ :: pieces, fun side => ?_⟩
          rw [written_literal, parts]
termination_by text.length

/-- The expressions in which every quote is closed consist of pieces. -/
theorem closed_iff_exists_written (expression : List Char) :
    (Nesting.feedAll {} expression).quote = none ↔ ∃ pieces, written .first pieces = expression := by
  constructor
  · intro closed
    obtain ⟨pieces, parts⟩ := exists_written rfl expression closed
    exact ⟨pieces, parts .first⟩
  · rintro ⟨pieces, rfl⟩
    exact quote_feedAll_written .first pieces rfl

/-- A location step with two wordings of its literals. -/
structure Draft where
  separator : List Piece
  text : List Piece
  bare : literals separator = []

namespace Draft

def fill (side : Side) (draft : Draft) : Step := ⟨written side draft.separator, written side draft.text⟩

def render (draft : Draft) : List Piece := draft.separator ++ draft.text

theorem written_render (side : Side) (drafts : List Draft) :
    written side (drafts.flatMap render) = (drafts.map (fill side)).flatMap Step.render := by
  induction drafts with
  | nil => rfl
  | cons draft rest ih => simp [ih, render, fill, Step.render]

theorem literals_render (drafts : List Draft) :
    literals (drafts.flatMap render) = drafts.flatMap fun draft => literals draft.text := by
  rw [literals_flatMap]
  simp only [render, literals_append, bare, List.nil_append]

end Draft

/-- What the scan of a list of pieces finds is the same on both sides, and no literal is lost. -/
def Drafted (pieces : List Piece) (found : Side → List Step) : Prop :=
  ∃ drafts : List Draft, (drafts.flatMap fun draft => literals draft.text) = literals pieces ∧
    ∀ side, found side = drafts.map (Draft.fill side)

theorem Drafted.append {first second : List Piece} {found later : Side → List Step} (before : Drafted first found)
    (behind : Drafted second later) : Drafted (first ++ second) fun side => found side ++ later side := by
  obtain ⟨drafts, kept, same⟩ := before
  obtain ⟨others, held, alike⟩ := behind
  refine ⟨drafts ++ others, ?_, fun side => ?_⟩
  · rw [List.flatMap_append, kept, held, literals_append]
  · rw [List.map_append, ← same, ← alike]

theorem Drafted.of_eq {pieces others : List Piece} {found later : Side → List Step} (drafted : Drafted pieces found)
    (kept : literals others = literals pieces) (same : ∀ side, later side = found side) : Drafted others later := by
  obtain ⟨drafts, held, alike⟩ := drafted
  exact ⟨drafts, held.trans kept.symm, fun side => (same side).trans (alike side)⟩

def slash : Piece := .bare '/' (by decide)

def dot : Piece := .bare '.' (by decide)

theorem written_slash (side : Side) (rest : List Piece) : written side (slash :: rest) = '/' :: written side rest := rfl

private theorem written_dot (side : Side) (rest : List Piece) :
    written side (dot :: rest) = '.' :: written side rest := rfl

private theorem drafted_finish {separator : List Piece} (bare : literals separator = []) (read : List Piece) :
    Drafted read fun side => finish (written side separator) (written side read).reverse := by
  cases read with
  | nil => exact ⟨[], rfl, fun _ => rfl⟩
  | cons piece more =>
      refine ⟨[⟨separator, piece :: more, bare⟩], by simp, fun side => ?_⟩
      obtain ⟨after, start⟩ := exists_written_cons side piece more
      simp [finish, Draft.fill, start]

private theorem written_ne_slash {pieces : List Piece} (apart : ∀ rest, pieces ≠ slash :: rest) (side : Side)
    (more : List Char) : written side pieces ≠ '/' :: more := by
  cases pieces with
  | nil => simp
  | cons piece rest =>
      intro same
      obtain ⟨after, start⟩ := exists_written_cons side piece rest
      rw [start] at same
      obtain ⟨sign, -⟩ := List.cons.inj same
      cases piece with
      | bare c unquoted =>
          obtain rfl : c = '/' := sign
          exact apart rest rfl
      | literal quoted => exact quoted.ne_of_isQuote_eq_false rfl sign

private theorem exists_slashes (pieces : List Piece) :
    ∃ separator rest, literals separator = [] ∧ literals rest = literals pieces ∧ rest.length ≤ pieces.length ∧
      ∀ side, slashes (written side pieces) = (written side separator, written side rest) := by
  by_cases second : ∃ rest, pieces = slash :: rest
  · obtain ⟨rest, rfl⟩ := second
    exact ⟨[slash, slash], rest, rfl, rfl, by simp, fun _ => rfl⟩
  · refine ⟨[slash], pieces, rfl, rfl, le_rfl, fun side => ?_⟩
    unfold slashes
    split
    next same => exact absurd same (written_ne_slash (fun rest same => second ⟨rest, same⟩) side _)
    next => rfl

private theorem drafted_stepsFrom {n : Nesting} (unquoted : n.quote = none) {separator : List Piece}
    (bare : literals separator = []) (read pieces : List Piece) :
    Drafted (read ++ pieces) fun side =>
      stepsFrom n (written side separator) (written side read).reverse (written side pieces) := by
  match pieces with
  | [] =>
      rw [List.append_nil]
      exact drafted_finish bare read
  | .literal quoted :: rest =>
      refine (drafted_stepsFrom unquoted bare (read ++ [.literal quoted]) rest).of_eq (by simp) fun side => ?_
      have uncut := uncut_literal unquoted quoted.isQuote (quoted.free side) (written side read).reverse
      have passed := feedAll_literal unquoted quoted.isQuote (quoted.free side)
      have reading := stepsFrom_append uncut (written side separator) (written side rest)
      rw [passed, ← List.reverse_append] at reading
      simpa [written, Piece.text] using reading
  | .bare c plain :: rest =>
      by_cases cut : n.outside = true ∧ c = '/'
      · obtain ⟨free, rfl⟩ := cut
        obtain ⟨between, behind, bare', kept, shorter, separated⟩ := exists_slashes rest
        have later := drafted_stepsFrom (n := {}) rfl bare' [] behind
        refine ((drafted_finish bare read).append later).of_eq (by simp [kept]) fun side => ?_
        rw [written_bare, stepsFrom_slash free, separated]
        rfl
      · have later := drafted_stepsFrom (feed_of_unquoted unquoted plain) bare (read ++ [.bare c plain]) rest
        refine later.of_eq (by simp) fun side => ?_
        rw [written_bare, stepsFrom_pass cut]
        simp
termination_by pieces.length

private theorem exists_leading (pieces : List Piece) :
    ∃ separator rest, literals separator = [] ∧ literals rest = literals pieces ∧ ∀ side,
      leadingSeparator (written side pieces) = written side separator ∧
        written side pieces = written side separator ++ written side rest := by
  by_cases slashed : ∃ rest, pieces = slash :: rest
  · obtain ⟨rest, rfl⟩ := slashed
    obtain ⟨separator, behind, bare, kept, -, separated⟩ := exists_slashes rest
    refine ⟨separator, behind, bare, kept, fun side => ?_⟩
    have parts := slashes_append (written side rest)
    rw [separated] at parts
    exact ⟨by rw [written_slash, leadingSeparator_slash, separated], parts.symm⟩
  by_cases dotted : ∃ rest, pieces = dot :: slash :: rest
  · obtain ⟨rest, rfl⟩ := dotted
    obtain ⟨separator, behind, bare, kept, -, separated⟩ := exists_slashes rest
    refine ⟨dot :: separator, behind, bare, kept, fun side => ?_⟩
    have parts := slashes_append (written side rest)
    rw [separated] at parts
    rw [written_dot, written_slash, written_dot, leadingSeparator_dot, separated, List.cons_append, parts]
    exact ⟨rfl, rfl⟩
  · refine ⟨[], pieces, rfl, rfl, fun side => ⟨?_, rfl⟩⟩
    have visible (more : List Char) : written side pieces ≠ '/' :: more :=
      written_ne_slash (fun rest same => slashed ⟨rest, same⟩) side more
    cases pieces with
    | nil => rfl
    | cons piece rest =>
        obtain ⟨after, start⟩ := exists_written_cons side piece rest
        rw [start] at visible ⊢
        refine leadingSeparator_of_ne (fun slash => visible after (by rw [slash])) fun sign more same => ?_
        cases piece with
        | literal quoted => exact quoted.ne_of_isQuote_eq_false rfl sign
        | bare c unquoted =>
            obtain rfl : c = '.' := sign
            obtain rfl : written side rest = after := (List.cons.inj start).2
            exact written_ne_slash (fun others tail => dotted ⟨others, by rw [tail]; rfl⟩) side more same

/-- Both sides of an expression have the same steps, but for the wording of literals. -/
theorem exists_drafts (pieces : List Piece) :
    ∃ drafts : List Draft, (drafts.flatMap fun draft => literals draft.text) = literals pieces ∧
      ∀ side, steps (written side pieces) = drafts.map (Draft.fill side) := by
  obtain ⟨separator, rest, bare, kept, leads⟩ := exists_leading pieces
  refine (drafted_stepsFrom (n := {}) rfl bare [] rest).of_eq (by simp [kept]) fun side => ?_
  obtain ⟨leading, parts⟩ := leads side
  have behind : (written side pieces).drop (written side separator).length = written side rest := by
    rw [parts, List.drop_left]
  rw [steps, leading, behind]
  rfl

end RemoteDom.Selector.Path
