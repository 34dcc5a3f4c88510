import Mathlib
import Retention.Proofs.Lines

/-!
# Scanning lines

A text of lines, each a key and a value that need no quotes, is scanned line by line. At
the start of a line the scanner holds nothing back, and all that the lines in front have
left behind is their tokens and the block mapping that the first of them has opened.
-/

namespace Retention.Yaml

/-! ## Words -/

theorem ne_of_isScript {c d : Char} (hc : isScript c = true) (hd : isScript d = false) :
    c ≠ d := by
  rintro rfl
  rw [hc] at hd
  cases hd

theorem isWordChar_range {c : Char} (hc : isWordChar c = true) :
    0x2D ≤ c.toNat ∧ c.toNat ≤ 0x7A := by
  simp only [isWordChar, Char.isAlphanum, Char.isAlpha, Char.isUpper, Char.isLower,
    Char.isDigit, Bool.or_eq_true, Bool.and_eq_true, decide_eq_true_eq] at hc
  rcases hc with ((((⟨h₁, h₂⟩ | ⟨h₁, h₂⟩) | ⟨h₁, h₂⟩) | rfl) | rfl)
  all_goals first
    | decide
    | simp only [ge_iff_le, UInt32.le_iff_toNat_le] at h₁ h₂
      exact ⟨Nat.le_trans (by decide) h₁, Nat.le_trans h₂ (by decide)⟩

theorem isAllowed_of_isScript {c : Char} (hc : isScript c = true) : isAllowed c = true := by
  simp only [isScript, Bool.or_eq_true, Bool.and_eq_true] at hc
  rcases hc with hword | hother
  · have hrange := isWordChar_range hword
    simp [isAllowed]
    omega
  · exact hother.1.1.2

/-- What a token or the white space in front of it does not start with is left where it
is. -/
def isSolid (c : Char) : Bool :=
  !isBlank c && !isBreak c && c != '#' && c != Scanner.byteOrderMark

theorem isSolid_of_isScript {c : Char} (hc : isScript c = true) : isSolid c = true := by
  have hne (d : Char) (hd : isScript d = false) : c ≠ d := ne_of_isScript hc hd
  simp [isSolid, isBlank, isBreak, Scanner.byteOrderMark, hne ' ' (by decide),
    hne '\t' (by decide), hne '\n' (by decide), hne '\r' (by decide), hne '\x85' (by decide),
    hne '\u2028' (by decide), hne '\u2029' (by decide), hne '#' (by decide),
    hne '\ufeff' (by decide)]

theorem not_blank_of_isSolid {c : Char} (hc : isSolid c = true) : isBlank c = false := by
  simp only [isSolid, Bool.and_eq_true, Bool.not_eq_true'] at hc
  exact hc.1.1.1

theorem not_break_of_isSolid {c : Char} (hc : isSolid c = true) : isBreak c = false := by
  simp only [isSolid, Bool.and_eq_true, Bool.not_eq_true'] at hc
  exact hc.1.1.2

/-- A text goes on with something that is neither white space nor a comment, or it is at
its end. -/
def GoesOn (text : List Char) : Prop :=
  ∀ c ∈ text.head?, isSolid c = true

theorem goesOn_nil : GoesOn [] := by
  simp [GoesOn]

theorem goesOn_cons {c : Char} {rest : List Char} (hc : isSolid c = true) :
    GoesOn (c :: rest) := by
  simpa [GoesOn] using hc

theorem IsWord.exists_cons {word : List Char} (hword : IsWord word) :
    ∃ c rest, word = c :: rest ∧ isScript c = true := by
  obtain ⟨c, rest, rfl⟩ := List.exists_cons_of_ne_nil hword.nonempty
  exact ⟨c, rest, rfl, hword.script c List.mem_cons_self⟩

theorem IsWord.goesOn {word : List Char} (hword : IsWord word) (rest : List Char) :
    GoesOn (word ++ rest) := by
  obtain ⟨c, others, rfl, hc⟩ := hword.exists_cons
  exact goesOn_cons (isSolid_of_isScript hc)

theorem IsWord.not_comment {word : List Char} (hword : IsWord word) (rest : List Char) :
    ((word ++ rest).head? == some '#') = false := by
  obtain ⟨c, others, rfl, hc⟩ := hword.exists_cons
  simp [ne_of_isScript hc (d := '#') (by decide)]

theorem IsWord.isEmpty_eq {word : List Char} (hword : IsWord word) : word.isEmpty = false := by
  simp [hword.nonempty]

/-- Inserting behind the front of a list leaves the front as it is. -/
theorem insertIdx_append {α : Type} (front rest : List α) (place : Nat) (a : α) :
    (front ++ rest).insertIdx (front.length + place) a = front ++ rest.insertIdx place a := by
  induction front with
  | nil => simp
  | cons b front ih =>
      rw [List.length_cons, Nat.add_right_comm, List.cons_append, List.insertIdx_succ_cons, ih,
        List.cons_append]

/-! ## Places -/

/-- The place behind some text on the same line. -/
def Mark.past (mark : Mark) (text : List Char) : Mark :=
  text.foldl Mark.after mark

namespace Mark

variable (mark : Mark) (text : List Char)

@[simp] theorem line_past : (mark.past text).line = mark.line := by
  induction text generalizing mark with
  | nil => rfl
  | cons c rest ih => exact ih (mark.after c)

@[simp] theorem column_past : (mark.past text).column = mark.column + text.length := by
  induction text generalizing mark with
  | nil => rfl
  | cons c rest ih =>
      have hrest := ih (mark.after c)
      simp only [past, List.foldl_cons, after, List.length_cons] at hrest ⊢
      omega

@[simp] theorem index_past : (mark.past text).index = mark.index + bytes text := by
  induction text generalizing mark with
  | nil => rfl
  | cons c rest ih =>
      have hrest := ih (mark.after c)
      simp only [past, List.foldl_cons, after, bytes, List.map_cons, List.sum_cons] at hrest ⊢
      omega

end Mark

namespace Cursor

variable {mark : Mark}

@[simp] theorem skip_zero (cursor : Cursor) : cursor.skip 0 = cursor :=
  rfl

theorem skip_word (word rest : List Char) :
    (⟨mark, word ++ rest⟩ : Cursor).skip word.length = ⟨mark.past word, rest⟩ := by
  simp [skip, Mark.past]

theorem skip_one (c : Char) (rest : List Char) :
    (⟨mark, c :: rest⟩ : Cursor).skip 1 = ⟨mark.after c, rest⟩ :=
  rfl

theorem takeBreak?_of_goesOn {rest : List Char} (hrest : GoesOn rest) :
    (⟨mark, rest⟩ : Cursor).takeBreak? = none := by
  cases rest with
  | nil => rfl
  | cons c others =>
      have hc : isSolid c = true := hrest c rfl
      have hbreak := not_break_of_isSolid hc
      unfold takeBreak?
      split
      next heq =>
        -- A carriage return would be a break.
        cases heq
        cases hbreak
      next heq =>
        cases heq
        simp [hbreak]
      next heq => cases heq

end Cursor

/-! ## Plain scalars -/

theorem startsBlank_of_isScript {c : Char} (hc : isScript c = true) (rest : List Char) :
    startsBlank (c :: rest) = false := by
  have hsolid := isSolid_of_isScript hc
  simp [startsBlank, not_blank_of_isSolid hsolid, not_break_of_isSolid hsolid]

/-- A key is no mark around documents, since a colon follows it. -/
theorem startsTriple_key {word : List Char} (hword : IsWord word) {d : Char} (hd : d ≠ ':')
    (rest : List Char) : startsTriple d (word ++ ':' :: rest) = false := by
  match word, hword with
  | [], hword => exact absurd rfl hword.nonempty
  | [_], _ => cases rest <;> simp [startsTriple, hd.symm]
  | [_, _], _ => simp [startsTriple, hd.symm]
  | [_, _, _], _ => simp [startsTriple, startsBlank, isBlank, isBreak]
  | _ :: _ :: _ :: e :: others, hword =>
      have he : isScript e = true := hword.script e (by simp)
      simp [startsTriple, startsBlank_of_isScript he]

namespace Plain

/-- White space ends a plain scalar, and so does a colon in front of it. -/
inductive Ends : List Char → Prop where
  | blank {rest : List Char} (hblank : startsBlank rest = true) : Ends rest
  | colon {rest : List Char} (hblank : startsBlank rest = true) : Ends (':' :: rest)

theorem piece_of_ends {rest : List Char} (hends : Ends rest) : piece false rest = [] := by
  cases hends with
  | blank hblank =>
      cases rest with
      | nil => rfl
      | cons c others =>
          simp only [startsBlank] at hblank
          simp [piece, hblank]
  | colon hblank => simp [piece, hblank]

theorem piece_word {word rest : List Char} (hword : ∀ c ∈ word, isScript c = true)
    (hends : Ends rest) : piece false (word ++ rest) = word := by
  induction word with
  | nil => exact piece_of_ends hends
  | cons c others ih =>
      have hc : isScript c = true := hword c List.mem_cons_self
      have hsolid := isSolid_of_isScript hc
      have hcolon : c ≠ ':' := ne_of_isScript hc (by decide)
      have hothers := ih fun d hd => hword d (List.mem_cons_of_mem _ hd)
      simp [piece, not_blank_of_isSolid hsolid, not_break_of_isSolid hsolid, hcolon, hothers]

variable {mark : Mark} {word rest : List Char} {least : Nat}

theorem read_key (hword : IsWord word) (hblank : startsBlank rest = true) :
    read false least ⟨mark, word ++ ':' :: rest⟩ =
      .ok ⟨word, ⟨mark.past word, ':' :: rest⟩, false⟩ := by
  have hmark : (⟨mark, word ++ ':' :: rest⟩ : Cursor).atDocumentMark = false := by
    simp [Cursor.atDocumentMark, startsTriple_key hword (d := '-') (by decide),
      startsTriple_key hword (d := '.') (by decide)]
  have hpiece : piece false (word ++ ':' :: rest) = word :=
    piece_word hword.script (.colon hblank)
  simp only [read, readFrom, hmark, hword.not_comment, hpiece, Cursor.skip_word,
    hword.isEmpty_eq, Gap.empty, Gap.fold, startsBlank, isBlank, isBreak]
  simp

/-- The gap behind a value is the line break, since the next line starts at once. -/
theorem read_gap (hrest : GoesOn rest) :
    Gap.read least ⟨mark, '\n' :: rest⟩ = (⟨[], ['\n'], false⟩, ⟨mark.nextLine 1, rest⟩) := by
  have hblanks : rest.takeWhile isBlank = [] := by
    cases rest with
    | nil => rfl
    | cons c others => simp [not_blank_of_isSolid (hrest c rfl)]
  have hbreak : (⟨mark.nextLine 1, rest⟩ : Cursor).takeBreak? = none :=
    Cursor.takeBreak?_of_goesOn hrest
  have htake : (⟨mark, '\n' :: rest⟩ : Cursor).takeBreak? =
      some ('\n', ⟨mark.nextLine 1, rest⟩) := by
    simp [Cursor.takeBreak?, isBreak, Char.utf8Size]
  simp [Gap.read, Gap.readBreaks, Cursor.span, isBlank, htake, hbreak, hblanks]

theorem read_value (hword : IsWord word) (hmark : mark.column ≠ 0) (hrest : GoesOn rest)
    (hleast : 0 < least) :
    read false least ⟨mark, word ++ '\n' :: rest⟩ =
      .ok ⟨word, ⟨(mark.past word).nextLine 1, rest⟩, true⟩ := by
  have hdocument : (⟨mark, word ++ '\n' :: rest⟩ : Cursor).atDocumentMark = false := by
    simp [Cursor.atDocumentMark, Cursor.column, hmark]
  have hpiece : piece false (word ++ '\n' :: rest) = word :=
    piece_word hword.script (.blank rfl)
  simp only [read, readFrom, hdocument, hword.not_comment, hpiece, Cursor.skip_word,
    hword.isEmpty_eq, Gap.empty, Gap.fold, startsBlank, isBlank, isBreak, read_gap hrest]
  simp [hleast, Mark.nextLine, Cursor.column]

/-- A value at the very end of a text. -/
theorem read_last (hword : IsWord word) (hmark : mark.column ≠ 0) :
    read false least ⟨mark, word⟩ = .ok ⟨word, ⟨mark.past word, []⟩, false⟩ := by
  have hdocument : (⟨mark, word⟩ : Cursor).atDocumentMark = false := by
    simp [Cursor.atDocumentMark, Cursor.column, hmark]
  have hpiece : piece false word = word := by
    have hends : Ends [] := .blank rfl
    simpa using piece_word hword.script hends
  have hcomment := hword.not_comment []
  have hskip : (⟨mark, word ++ []⟩ : Cursor).skip word.length = ⟨mark.past word, []⟩ :=
    Cursor.skip_word word []
  rw [List.append_nil] at hcomment hskip
  simp [read, readFrom, hdocument, hcomment, hpiece, hskip, hword.isEmpty_eq, Gap.empty, Gap.fold]

end Plain

/-! ## White space in front of tokens -/

namespace Scanner

theorem skipByteOrderMark_of_goesOn {cursor : Cursor} (hrest : GoesOn cursor.rest) :
    skipByteOrderMark cursor = cursor := by
  have hhead : cursor.rest.head? ≠ some byteOrderMark := by
    intro hmark
    exact absurd (hrest _ hmark) (by decide)
  simp [skipByteOrderMark, hhead]

theorem skipWhile_of_goesOn {cursor : Cursor} (hrest : GoesOn cursor.rest) {p : Char → Bool}
    (hp : ∀ c, isSolid c = true → p c = false) : cursor.skipWhile p = cursor := by
  have htaken : cursor.rest.takeWhile p = [] := by
    cases htext : cursor.rest with
    | nil => rfl
    | cons c others => simp [hp c (hrest c (by simp [htext]))]
  simp [Cursor.skipWhile, Cursor.span, htaken]

theorem skipComment_of_goesOn {cursor : Cursor} (hrest : GoesOn cursor.rest) :
    cursor.skipComment = cursor := by
  unfold Cursor.skipComment
  split
  next others htext =>
    exact absurd (hrest '#' (by simp [htext])) (by decide)
  next => rfl

theorem skipSpace_of_goesOn {scanner : Scanner} (hrest : GoesOn scanner.cursor.rest)
    (fuel : Nat) : skipSpace fuel scanner = scanner := by
  cases fuel with
  | zero => rfl
  | succ fuel =>
      have hindent : scanner.cursor.skipWhile
          (fun c => c = ' ' || ((scanner.inFlow || !scanner.keyAllowed) && c = '\t')) =
          scanner.cursor := by
        refine skipWhile_of_goesOn hrest fun c hc => ?_
        have hblank := not_blank_of_isSolid hc
        simp only [isBlank, Bool.or_eq_false_iff] at hblank
        simp [hblank]
      have hbreak : scanner.cursor.takeBreak? = none := Cursor.takeBreak?_of_goesOn hrest
      simp only [skipSpace, skipByteOrderMark_of_goesOn hrest, hindent,
        skipComment_of_goesOn hrest, hbreak]

/-- The space behind a colon is passed. -/
theorem skipSpace_space (scanner : Scanner) {mark : Mark} {rest : List Char}
    (hcursor : scanner.cursor = ⟨mark, ' ' :: rest⟩) (hrest : GoesOn rest) (fuel : Nat) :
    skipSpace (fuel + 1) scanner = { scanner with cursor := ⟨mark.after ' ', rest⟩ } := by
  have hmark : skipByteOrderMark ⟨mark, ' ' :: rest⟩ = ⟨mark, ' ' :: rest⟩ := by
    simp [skipByteOrderMark, byteOrderMark]
  have hindent : (⟨mark, ' ' :: rest⟩ : Cursor).skipWhile
      (fun c => c = ' ' || ((scanner.inFlow || !scanner.keyAllowed) && c = '\t')) =
      ⟨mark.after ' ', rest⟩ := by
    have htaken : rest.takeWhile
        (fun c => c = ' ' || ((scanner.inFlow || !scanner.keyAllowed) && c = '\t')) = [] := by
      cases rest with
      | nil => rfl
      | cons c others =>
          have hblank := not_blank_of_isSolid (hrest c rfl)
          simp only [isBlank, Bool.or_eq_false_iff] at hblank
          simp [hblank]
    simp [Cursor.skipWhile, Cursor.span, htaken, Cursor.skip_one]
  have hgoesOn : GoesOn (⟨mark.after ' ', rest⟩ : Cursor).rest := hrest
  have hbreak : (⟨mark.after ' ', rest⟩ : Cursor).takeBreak? = none :=
    Cursor.takeBreak?_of_goesOn hrest
  simp only [skipSpace, hcursor, hmark, hindent, skipComment_of_goesOn hgoesOn, hbreak]

/-! ## Fetching the tokens of a line -/

/-- A scanner that has fetched some tokens and holds nothing back, at the start of a line
or at the end of the text. `opened` tells whether the block mapping has been opened. -/
def atLine (opened : Bool) (tokens : List Located) (cursor : Cursor) : Scanner where
  cursor := cursor
  tokens := tokens
  keys := [none]
  indents := if opened then [0] else []
  keyAllowed := true
  isCut := false
  ended := false

/-- A scanner behind a key that started at `mark`, in front of its colon. -/
def behindKey (opened : Bool) (tokens : List Located) (mark : Mark) (key rest : List Char) :
    Scanner where
  cursor := ⟨mark.past key, ':' :: rest⟩
  tokens := tokens ++ [⟨.scalar ⟨.plain, String.ofList key⟩, mark⟩]
  keys := [some ⟨opened, tokens.length, mark⟩]
  indents := if opened then [0] else []
  keyAllowed := false
  isCut := false
  ended := false

/-- The tokens up to the value of a line, for a key at `mark`. The first line opens the
mapping. -/
def keyTokens (opened : Bool) (mark : Mark) (key : List Char) : List Located :=
  (if opened then [] else [⟨.blockMappingStart, mark⟩])
    ++ [⟨.key mark, mark⟩, ⟨.scalar ⟨.plain, String.ofList key⟩, mark⟩,
      ⟨.value ((mark.past key).after ':'), mark.past key⟩]

/-- A scanner behind the colon of a key that started at `mark`. -/
def behindColon (opened : Bool) (tokens : List Located) (mark : Mark) (key rest : List Char) :
    Scanner where
  cursor := ⟨(mark.past key).after ':', rest⟩
  tokens := tokens ++ keyTokens opened mark key
  keys := [none]
  indents := [0]
  keyAllowed := false
  isCut := false
  ended := false

variable {opened : Bool} {tokens : List Located} {mark : Mark} {key rest : List Char}

theorem startsPlain_of_isScript {c : Char} (hc : isScript c = true)
    (hentry : c = '-' → startsBlank rest = false) (inFlow : Bool) :
    startsPlain inFlow c rest = true := by
  have hsolid := isSolid_of_isScript hc
  have hindicators : c ∉ indicators := by
    intro hmem
    have hnone : indicators.all (fun d => !isScript d) = true := by decide
    simpa [hc] using List.all_eq_true.mp hnone c hmem
  have hquestion : c ≠ '?' := ne_of_isScript hc (by decide)
  have hcolon : c ≠ ':' := ne_of_isScript hc (by decide)
  by_cases hhyphen : c = '-'
  · have hblank := hentry hhyphen
    cases rest with
    | nil => cases hblank
    | cons d others =>
        simp only [startsBlank, Bool.or_eq_false_iff] at hblank
        have hsolid' : isSolid '-' = true := by decide
        simp [startsPlain, hhyphen, hblank, not_blank_of_isSolid hsolid',
          not_break_of_isSolid hsolid']
  · simp [startsPlain, not_blank_of_isSolid hsolid, not_break_of_isSolid hsolid, hhyphen,
      hquestion, hcolon, hindicators]

/-- A token that starts with a word is a plain scalar. -/
theorem fetchToken_of_isScript {scanner : Scanner} {c : Char}
    (hrest : scanner.cursor.rest = c :: rest) (hc : isScript c = true)
    (hentry : c = '-' → startsBlank rest = false)
    (hdocument : scanner.cursor.column = 0 →
      startsTriple '-' (c :: rest) = false ∧ startsTriple '.' (c :: rest) = false) :
    scanner.fetchToken = scanner.fetchPlain := by
  have hne (d : Char) (hd : isScript d = false) : c ≠ d := ne_of_isScript hc hd
  have hplain := startsPlain_of_isScript hc hentry scanner.inFlow
  have hblock : ¬(c = '-' ∧ startsBlank rest = true) := by
    rintro ⟨hhyphen, hblank⟩
    rw [hentry hhyphen] at hblank
    cases hblank
  have hstart : ¬(scanner.cursor.column = 0 ∧ startsTriple '-' (c :: rest) = true) := by
    rintro ⟨hcolumn, htriple⟩
    simp [hdocument hcolumn] at htriple
  have hend : ¬(scanner.cursor.column = 0 ∧ startsTriple '.' (c :: rest) = true) := by
    rintro ⟨hcolumn, htriple⟩
    simp [hdocument hcolumn] at htriple
  unfold fetchToken
  simp only [hrest, hne '%' (by decide), hne '[' (by decide), hne '\x7b' (by decide),
    hne ']' (by decide), hne '\x7d' (by decide), hne ',' (by decide), hne '?' (by decide),
    hne ':' (by decide), hne '*' (by decide), hne '&' (by decide), hne '!' (by decide),
    hne '|' (by decide), hne '>' (by decide), hne '\x27' (by decide), hne '\x22' (by decide),
    hblock, hstart, hend, hplain, and_false, false_and, if_false, if_true]

/-- What a fetch comes to when the white space has been passed and nothing is given up or
closed in front of the token. -/
theorem fetch_of_skip {scanner moved next : Scanner}
    (hskip : skipSpace (scanner.cursor.rest.length + 1) scanner = moved)
    (hkeys : moved.dropStaleKeys = .ok moved) (hcut : moved.isCut = false)
    (hindents : moved.closeBlocks (moved.cursor.column < ·) = moved)
    (htoken : moved.fetchToken = .ok next) (hnext : next.isCut = false) :
    scanner.fetch = .ok next := by
  simp [fetch, hskip, hkeys, lookAhead, hcut, hindents, htoken, hnext, bind, Except.bind]
  rfl

theorem fetch_error_of_skip {scanner moved : Scanner} {fault : Fault}
    (hskip : skipSpace (scanner.cursor.rest.length + 1) scanner = moved)
    (hkeys : moved.dropStaleKeys = .ok moved) (hcut : moved.isCut = false)
    (hindents : moved.closeBlocks (moved.cursor.column < ·) = moved)
    (htoken : moved.fetchToken = .error fault) : scanner.fetch = .error fault := by
  simp [fetch, hskip, hkeys, lookAhead, hcut, hindents, htoken, bind, Except.bind]

theorem dropStaleKeys_none {scanner : Scanner} (hkeys : scanner.keys = [none]) :
    scanner.dropStaleKeys = .ok scanner := by
  cases scanner
  cases hkeys
  rfl

/-- What stands in the mapping does not close it. -/
theorem closeBlocks_column {scanner : Scanner} {opened : Bool}
    (hindents : scanner.indents = if opened then [0] else []) (column : Nat) :
    scanner.closeBlocks (column < ·) = scanner := by
  cases scanner
  cases opened <;> cases hindents <;> simp [closeBlocks]

theorem startsBlank_key {c : Char} {others : List Char} (hkey : IsWord (c :: others)) :
    startsBlank (others ++ ':' :: rest) = false := by
  cases others with
  | nil => simp [startsBlank, isBlank, isBreak]
  | cons d others => exact startsBlank_of_isScript (hkey.script d (by simp)) _

theorem fetchPlain_key (hkey : IsWord key) (hmark : mark.column = 0)
    (hblank : startsBlank rest = true) :
    (atLine opened tokens ⟨mark, key ++ ':' :: rest⟩).fetchPlain =
      .ok (behindKey opened tokens mark key rest) := by
  cases opened <;>
    simp [fetchPlain, saveKey, dropKey, setKey, inFlow, indent, least, atLine, behindKey,
      pushScalar, push, allowKey, Cursor.column, hmark, Plain.read_key hkey hblank, bind,
      Except.bind, pure, Except.pure]

theorem fetch_key (opened : Bool) (tokens : List Located) (hkey : IsWord key)
    (hmark : mark.column = 0) (hblank : startsBlank rest = true) :
    (atLine opened tokens ⟨mark, key ++ ':' :: rest⟩).fetch =
      .ok (behindKey opened tokens mark key rest) := by
  have htoken : (atLine opened tokens ⟨mark, key ++ ':' :: rest⟩).fetchToken =
      (atLine opened tokens ⟨mark, key ++ ':' :: rest⟩).fetchPlain := by
    obtain ⟨c, others, rfl, hc⟩ := hkey.exists_cons
    refine fetchToken_of_isScript rfl hc (fun _ => startsBlank_key hkey) fun _ => ?_
    exact ⟨startsTriple_key hkey (by decide) rest, startsTriple_key hkey (by decide) rest⟩
  exact fetch_of_skip (skipSpace_of_goesOn (hkey.goesOn _) _) (dropStaleKeys_none rfl) rfl
    (closeBlocks_column rfl _) (htoken.trans (fetchPlain_key hkey hmark hblank)) rfl

theorem dropStaleKeys_behindKey (hsize : bytes key ≤ 1024) :
    (behindKey opened tokens mark key rest).dropStaleKeys =
      .ok (behindKey opened tokens mark key rest) := by
  have hstale : ¬mark.index + 1024 < mark.index + bytes key := by omega
  simp [dropStaleKeys, behindKey, isStale, hstale]

theorem fetchValue_behindKey (hmark : mark.column = 0) :
    (behindKey opened tokens mark key rest).fetchValue =
      .ok (behindColon opened tokens mark key rest) := by
  have hinsert (added : List Located) (token : Located) :
      (tokens ++ added).insertIdx tokens.length token = tokens ++ token :: added :=
    insertIdx_append tokens added 0 token
  cases opened <;>
    simp [fetchValue, behindKey, behindColon, keyTokens, openBlock, inFlow, least, indent, setKey,
      take, push, allowKey, hmark, hinsert, Cursor.skip_one, pure, Except.pure]

theorem fetchToken_colon {scanner : Scanner} (hrest : scanner.cursor.rest = ':' :: rest)
    (hcolumn : scanner.cursor.column ≠ 0) (hblank : startsBlank rest = true) :
    scanner.fetchToken = scanner.fetchValue := by
  simp only [fetchToken, hrest, hcolumn]
  simp [hblank]

theorem column_behindKey (hkey : IsWord key) :
    (behindKey opened tokens mark key rest).cursor.column ≠ 0 := by
  have hlength := List.length_pos_iff.mpr hkey.nonempty
  simp only [behindKey, Cursor.column, Mark.column_past]
  omega

/-- The colon behind a key makes it one, if it is still in reach. -/
theorem fetch_colon (hmark : mark.column = 0) (hkey : IsWord key) (hsize : bytes key ≤ 1024)
    (hblank : startsBlank rest = true) :
    (behindKey opened tokens mark key rest).fetch =
      .ok (behindColon opened tokens mark key rest) := by
  have htoken : (behindKey opened tokens mark key rest).fetchToken =
      (behindKey opened tokens mark key rest).fetchValue :=
    fetchToken_colon rfl (column_behindKey hkey) hblank
  exact fetch_of_skip (skipSpace_of_goesOn (goesOn_cons (by decide)) _)
    (dropStaleKeys_behindKey hsize) rfl (closeBlocks_column rfl _)
    (htoken.trans (fetchValue_behindKey hmark)) rfl

/-- Where the value of a line stands. -/
def valueMark (mark : Mark) (key : List Char) : Mark :=
  ((mark.past key).after ':').after ' '

/-- Where the line behind one that starts at `mark` starts. -/
def nextMark (mark : Mark) (key value : List Char) : Mark :=
  ((valueMark mark key).past value).nextLine 1

theorem column_valueMark (mark : Mark) (key : List Char) : (valueMark mark key).column ≠ 0 := by
  simp [valueMark, Mark.after]

theorem column_nextMark (mark : Mark) (key value : List Char) :
    (nextMark mark key value).column = 0 :=
  rfl

/-- The tokens of a line. -/
def lineTokens (opened : Bool) (mark : Mark) (key value : List Char) : List Located :=
  keyTokens opened mark key
    ++ [⟨.scalar ⟨.plain, String.ofList value⟩, valueMark mark key⟩]

/-- A scanner behind the value of a line. A key may follow where a line break has been
crossed. -/
def behindValue (crossed : Bool) (tokens : List Located) (cursor : Cursor) : Scanner :=
  { atLine true tokens cursor with keyAllowed := crossed }

variable {value : List Char} {cursor : Cursor} {crossed : Bool}

/-- The value of a line is fetched as it is read. -/
theorem fetch_value (hvalue : IsWord value) (hhyphen : value.head? ≠ some '-')
    (hread : Plain.read false 1 ⟨valueMark mark key, value ++ rest⟩ =
      .ok ⟨value, cursor, crossed⟩) :
    (behindColon opened tokens mark key (' ' :: (value ++ rest))).fetch =
      .ok (behindValue crossed (tokens ++ lineTokens opened mark key value) cursor) := by
  let moved : Scanner :=
    { behindColon opened tokens mark key [] with
      cursor := ⟨valueMark mark key, value ++ rest⟩ }
  have hskip := skipSpace_space
    (behindColon opened tokens mark key (' ' :: (value ++ rest))) rfl (hvalue.goesOn rest)
  have hindents : moved.indents = if true then [0] else [] := rfl
  have htoken : moved.fetchToken = moved.fetchPlain := by
    obtain ⟨c, others, rfl, hc⟩ := hvalue.exists_cons
    refine fetchToken_of_isScript rfl hc ?_ fun hzero => absurd hzero (column_valueMark mark key)
    rintro rfl
    exact absurd rfl hhyphen
  have hplain : moved.fetchPlain =
      .ok (behindValue crossed (tokens ++ lineTokens opened mark key value) cursor) := by
    simp [moved, fetchPlain, saveKey, behindColon, inFlow, least, indent, hread, lineTokens,
      pushScalar, push, allowKey, behindValue, atLine, bind, Except.bind, pure, Except.pure]
  exact fetch_of_skip (hskip _) (dropStaleKeys_none rfl) rfl
    (closeBlocks_column hindents _) (htoken.trans hplain) rfl

/-! ## Lines -/

/-- A scanner that holds nothing back goes on to the next token. -/
theorem run_of_fetch {scanner next : Scanner} (hkeys : scanner.dropStaleKeys = .ok scanner)
    (hended : scanner.ended = false) (hfetch : scanner.fetch = .ok next) (fuel kept : Nat) :
    run (fuel + 1) scanner kept = run fuel next scanner.released := by
  simp [run, hkeys, hended, hfetch]

/-- A fault ends the scan, and the tokens that are held back are lost. -/
theorem run_of_fault {scanner settled : Scanner} {fault : Fault}
    (hkeys : scanner.dropStaleKeys = .ok settled) (hended : settled.ended = false)
    (hfetch : settled.fetch = .error fault) (fuel kept : Nat) :
    run (fuel + 1) scanner kept = (settled.tokens.take settled.released, some fault) := by
  simp [run, hkeys, hended, hfetch]

/-- The three tokens of a line are fetched one after another. -/
theorem run_line (opened : Bool) (tokens : List Located) (hmark : mark.column = 0)
    (hkey : IsWord key) (hsize : bytes key ≤ 1024) (hvalue : IsWord value)
    (hhyphen : value.head? ≠ some '-')
    (hread : Plain.read false 1 ⟨valueMark mark key, value ++ rest⟩ =
      .ok ⟨value, cursor, crossed⟩)
    (fuel kept : Nat) :
    ∃ kept', run (fuel + 3)
        (atLine opened tokens ⟨mark, key ++ ':' :: ' ' :: (value ++ rest)⟩) kept =
      run fuel (behindValue crossed (tokens ++ lineTokens opened mark key value) cursor)
        kept' := by
  have hblank : startsBlank (' ' :: (value ++ rest)) = true := rfl
  exact ⟨_, (run_of_fetch (dropStaleKeys_none rfl) rfl (fetch_key _ _ hkey hmark hblank) _ _).trans
    ((run_of_fetch (dropStaleKeys_behindKey hsize) rfl
        (fetch_colon hmark hkey hsize hblank) _ _).trans
      (run_of_fetch (dropStaleKeys_none rfl) rfl (fetch_value hvalue hhyphen hread) _ _))⟩

end Scanner

/-- Where the lines end that start at `mark`. -/
def linesEnd : Mark → List (String × String) → Mark
  | mark, [] => mark
  | mark, line :: rest => linesEnd (Scanner.nextMark mark line.1.toList line.2.toList) rest

/-- The tokens of lines. -/
def linesTokens : Bool → Mark → List (String × String) → List Located
  | _, _, [] => []
  | opened, mark, line :: rest =>
      Scanner.lineTokens opened mark line.1.toList line.2.toList
        ++ linesTokens true (Scanner.nextMark mark line.1.toList line.2.toList) rest

theorem goesOn_linesText {lines : List (String × String)} (hlines : ∀ line ∈ lines, IsLine line)
    {rest : List Char} (hrest : GoesOn rest) : GoesOn (linesText lines ++ rest) := by
  cases lines with
  | nil => exact hrest
  | cons line others =>
      have hkey := (hlines line List.mem_cons_self).key
      rw [linesText, List.append_assoc]
      exact hkey.goesOn _

theorem column_linesEnd {mark : Mark} (hmark : mark.column = 0)
    (lines : List (String × String)) : (linesEnd mark lines).column = 0 := by
  induction lines generalizing mark with
  | nil => exact hmark
  | cons line rest ih => exact ih rfl

namespace Scanner

theorem run_lines {lines : List (String × String)} (hlines : ∀ line ∈ lines, IsLine line)
    {rest : List Char} (hrest : GoesOn rest) {mark : Mark} (hmark : mark.column = 0)
    (opened : Bool) (tokens : List Located) (fuel kept : Nat) :
    ∃ kept', run (fuel + 3 * lines.length)
        (atLine opened tokens ⟨mark, linesText lines ++ rest⟩) kept =
      run fuel
        (atLine (opened || !lines.isEmpty) (tokens ++ linesTokens opened mark lines)
          ⟨linesEnd mark lines, rest⟩) kept' := by
  induction lines generalizing opened tokens mark kept with
  | nil => exact ⟨kept, by simp [linesText, linesTokens, linesEnd]⟩
  | cons line others ih =>
      obtain ⟨hkey, hsize, hvalue, hhyphen⟩ := hlines line List.mem_cons_self
      have hothers : ∀ line ∈ others, IsLine line :=
        fun line hline => hlines line (List.mem_cons_of_mem _ hline)
      have hread := Plain.read_value hvalue (column_valueMark mark line.1.toList)
        (goesOn_linesText hothers hrest) Nat.zero_lt_one
      obtain ⟨kept₁, hline⟩ := run_line opened tokens hmark hkey hsize hvalue hhyphen hread
        (fuel + 3 * others.length) kept
      -- The others find the mapping opened, by this line or before it.
      obtain ⟨kept₂, hmore⟩ := ih hothers (column_nextMark mark line.1.toList line.2.toList) true
        (tokens ++ lineTokens opened mark line.1.toList line.2.toList) kept₁
      refine ⟨kept₂, ?_⟩
      have htext : linesText (line :: others) ++ rest =
          line.1.toList ++ ':' :: ' ' :: (line.2.toList ++ '\n' :: (linesText others ++ rest)) := by
        simp [linesText]
      have hfuel : fuel + 3 * (line :: others).length = fuel + 3 * others.length + 3 := by
        simp only [List.length_cons]
        omega
      rw [htext, hfuel, hline]
      refine hmore.trans ?_
      simp [linesTokens, linesEnd]

/-- Where a text ends that has been read up to `mark`. -/
def endMark (mark : Mark) : Mark :=
  if mark.column = 0 then mark else mark.nextLine 0

/-- At the end of the text the mapping is closed. -/
theorem run_end (crossed : Bool) (tokens : List Located) (mark : Mark) (fuel kept : Nat) :
    run (fuel + 2) (behindValue crossed tokens ⟨mark, []⟩) kept =
      (tokens ++ [⟨.blockEnd, endMark mark⟩, ⟨.streamEnd, endMark mark⟩], none) := by
  have hindents : (behindValue crossed tokens ⟨mark, []⟩).indents =
      if true then [0] else [] := rfl
  have hfetch : (behindValue crossed tokens ⟨mark, []⟩).fetch =
      .ok { atLine false (tokens ++ [⟨.blockEnd, endMark mark⟩, ⟨.streamEnd, endMark mark⟩])
          ⟨endMark mark, []⟩ with
        keyAllowed := false, ended := true } := by
    refine fetch_of_skip (skipSpace_of_goesOn goesOn_nil _) (dropStaleKeys_none rfl) rfl
      (closeBlocks_column hindents _) ?_ rfl
    simp [fetchToken, fetchEnd, behindValue, atLine, closeBlocks, inFlow, dropKey, push, allowKey,
      endMark, bind, Except.bind, pure, Except.pure]
  rw [run_of_fetch (dropStaleKeys_none rfl) rfl hfetch]
  simp [run, dropStaleKeys, atLine]

end Scanner

/-! ## Texts of lines -/

theorem all_isAllowed_linesText {lines : List (String × String)}
    (hlines : ∀ line ∈ lines, IsLine line) : (linesText lines).all isAllowed = true := by
  induction lines with
  | nil => rfl
  | cons line others ih =>
      obtain ⟨hkey, -, hvalue, -⟩ := hlines line List.mem_cons_self
      have hword {word : List Char} (hword : IsWord word) : word.all isAllowed = true :=
        List.all_eq_true.mpr fun c hc => isAllowed_of_isScript (hword.script c hc)
      have hothers := ih fun line hline => hlines line (List.mem_cons_of_mem _ hline)
      have hcolon : isAllowed ':' = true := by decide
      have hspace : isAllowed ' ' = true := by decide
      have hfeed : isAllowed '\n' = true := by decide
      simp only [linesText, List.all_append, List.all_cons, hword hkey, hword hvalue, hothers,
        hcolon, hspace, hfeed, Bool.and_self]

theorem length_linesText (lines : List (String × String)) :
    3 * lines.length ≤ (linesText lines).length := by
  induction lines with
  | nil => exact Nat.zero_le _
  | cons line others ih =>
      simp only [linesText, List.length_append, List.length_cons] at ih ⊢
      omega

theorem linesTokens_concat (lines : List (String × String)) (line : String × String)
    (opened : Bool) (mark : Mark) :
    linesTokens opened mark (lines ++ [line]) =
      linesTokens opened mark lines
        ++ Scanner.lineTokens (opened || !lines.isEmpty) (linesEnd mark lines) line.1.toList
          line.2.toList := by
  induction lines generalizing opened mark with
  | nil => simp [linesTokens, linesEnd]
  | cons first others ih => simp [linesTokens, linesEnd, ih]

theorem linesText_concat (lines : List (String × String)) (line : String × String) :
    linesText (lines ++ [line]) =
      linesText lines ++ (line.1.toList ++ ':' :: ' ' :: line.2.toList) ++ ['\n'] := by
  induction lines with
  | nil => simp [linesText]
  | cons first others ih => simp [linesText, ih]

theorem Consists.all_isAllowed {lines : List (String × String)} {text : List Char}
    (htext : Consists lines text) (hlines : ∀ line ∈ lines, IsLine line) :
    text.all isAllowed = true := by
  have hall := all_isAllowed_linesText hlines
  cases htext with
  | ended htext => rwa [htext]
  | broken htext =>
      rw [← htext, List.all_append, Bool.and_eq_true] at hall
      exact hall.1

namespace Scanner

/-- Lines that all have their line feed are read up to the end of the text. -/
theorem run_ended {lines : List (String × String)} (hlines : ∀ line ∈ lines, IsLine line)
    (hsome : lines ≠ []) :
    run ((linesText lines).length + 2) (atLine false [] ⟨.origin, linesText lines⟩) 0 =
      (linesTokens false .origin lines
        ++ [⟨.blockEnd, endMark (linesEnd .origin lines)⟩,
          ⟨.streamEnd, endMark (linesEnd .origin lines)⟩], none) := by
  obtain ⟨extra, hextra⟩ := Nat.exists_eq_add_of_le (length_linesText lines)
  have hfuel : (linesText lines).length + 2 = (extra + 2) + 3 * lines.length := by omega
  have hopened : (false || !lines.isEmpty) = true := by simp [hsome]
  obtain ⟨kept, hrun⟩ := run_lines hlines goesOn_nil (show Mark.origin.column = 0 from rfl)
    false [] (extra + 2) 0
  rw [List.append_nil, List.nil_append, hopened] at hrun
  rw [hfuel, hrun]
  exact run_end true _ _ extra kept

/-- The last line, without a line feed, is read up to the end of the text. -/
theorem run_last {line : String × String} (hline : IsLine line) {mark : Mark}
    (hmark : mark.column = 0) (opened : Bool) (tokens : List Located) (fuel kept : Nat) :
    ∃ stop, run (fuel + 5)
        (atLine opened tokens ⟨mark, line.1.toList ++ ':' :: ' ' :: line.2.toList⟩) kept =
      (tokens ++ lineTokens opened mark line.1.toList line.2.toList
        ++ [⟨.blockEnd, stop⟩, ⟨.streamEnd, stop⟩], none) := by
  obtain ⟨hkey, hsize, hvalue, hhyphen⟩ := hline
  have hread : Plain.read false 1 ⟨valueMark mark line.1.toList, line.2.toList ++ []⟩ =
      .ok ⟨line.2.toList, ⟨(valueMark mark line.1.toList).past line.2.toList, []⟩, false⟩ := by
    rw [List.append_nil]
    exact Plain.read_last hvalue (column_valueMark _ _)
  obtain ⟨kept', hrun⟩ := run_line opened tokens hmark hkey hsize hvalue hhyphen hread (fuel + 2)
    kept
  rw [List.append_nil] at hrun
  exact ⟨_, hrun.trans (run_end false _ _ fuel kept')⟩

/-- Lines of which the last lacks its line feed are read up to the end of the text. -/
theorem run_broken {lines : List (String × String)} (hlines : ∀ line ∈ lines, IsLine line)
    {text : List Char} (htext : text ++ ['\n'] = linesText lines) :
    ∃ stop, run (text.length + 2) (atLine false [] ⟨.origin, text⟩) 0 =
      (linesTokens false .origin lines ++ [⟨.blockEnd, stop⟩, ⟨.streamEnd, stop⟩], none) := by
  obtain rfl | ⟨front, last, rfl⟩ := List.eq_nil_or_concat lines
  · simp [linesText] at htext
  · -- The missing line feed is that of the last line, which is left without it.
    rw [List.concat_eq_append] at hlines htext ⊢
    rw [linesText_concat, List.append_cancel_right_eq] at htext
    have hfront : ∀ line ∈ front, IsLine line :=
      fun line hline => hlines line (List.mem_append_left _ hline)
    have hlast : IsLine last := hlines last (by simp)
    have horigin : Mark.origin.column = 0 := rfl
    have hlength : 3 * front.length + 3 ≤ text.length := by
      have hlines := length_linesText front
      have hsome := List.length_pos_iff.mpr hlast.key.nonempty
      simp only [htext, List.length_append, List.length_cons]
      omega
    obtain ⟨extra, hextra⟩ := Nat.exists_eq_add_of_le hlength
    have hfuel : text.length + 2 = extra + 5 + 3 * front.length := by omega
    obtain ⟨kept, hrun⟩ := run_lines hfront (hlast.key.goesOn (':' :: ' ' :: last.2.toList))
      horigin false [] (extra + 5) 0
    obtain ⟨stop, hend⟩ := run_last hlast (column_linesEnd horigin front)
      (false || !front.isEmpty) (linesTokens false .origin front) extra kept
    refine ⟨stop, ?_⟩
    rw [hfuel, htext, hrun, List.nil_append, hend, linesTokens_concat]

end Scanner

/-- A text of lines is scanned to the end, and its tokens are those of the lines inside one
block mapping. -/
theorem scan_lines {lines : List (String × String)} (hlines : ∀ line ∈ lines, IsLine line)
    (hsome : lines ≠ []) {text : String} (htext : Consists lines text.toList) :
    ∃ stop, Located.scan text =
      (linesTokens false .origin lines ++ [⟨.blockEnd, stop⟩, ⟨.streamEnd, stop⟩], none) := by
  have hstart : Scanner.ofText text.toList = .atLine false [] ⟨.origin, text.toList⟩ := by
    simp [Scanner.ofText, htext.all_isAllowed hlines, Scanner.start, Scanner.atLine,
      Cursor.start]
  have hscan : Located.scan text =
      (Scanner.atLine false [] ⟨.origin, text.toList⟩).run (text.toList.length + 2) 0 := by
    rw [Located.scan, hstart]
    rfl
  rw [hscan]
  cases htext with
  | ended htext =>
      rw [htext]
      exact ⟨_, Scanner.run_ended hlines hsome⟩
  | broken htext => exact Scanner.run_broken hlines htext

end Retention.Yaml
