import Retention.Proofs.Scanning

/-!
# Tokens that stay

Where nothing is held back, the tokens that have been fetched stay: whatever the text goes
on with, later tokens are put behind them, and a fault does not take them away. Tokens are
only ever added at the end or in front of a possible key, so it is enough that no possible
key stands among them.
-/

namespace Retention.Yaml

namespace Scanner

variable {front : List Located}

theorem bind_eq_ok {ε α β : Type} {x : Except ε α} {f : α → Except ε β} {b : β} :
    x >>= f = .ok b ↔ ∃ a, x = .ok a ∧ f a = .ok b := by
  cases x with
  | error e => simp [bind, Except.bind]
  | ok a => simp [bind, Except.bind]

theorem prefix_insertIdx {tokens : List Located} (hfront : front <+: tokens) {place : Nat}
    (hplace : front.length ≤ place) (token : Located) :
    front <+: tokens.insertIdx place token := by
  obtain ⟨rest, rfl⟩ := hfront
  obtain ⟨more, rfl⟩ := Nat.exists_eq_add_of_le hplace
  rw [insertIdx_append]
  exact List.prefix_append _ _

/-- Some tokens come first, and no possible key stands among them. -/
structure Past (front : List Located) (scanner : Scanner) : Prop where
  tokens : front <+: scanner.tokens
  keys : ∀ key, some key ∈ scanner.keys → front.length ≤ key.place

namespace Past

variable {scanner scanner' : Scanner}

theorem congr (hpast : scanner.Past front) (htokens : scanner'.tokens = scanner.tokens)
    (hkeys : scanner'.keys = scanner.keys) : scanner'.Past front where
  tokens := htokens ▸ hpast.tokens
  keys := hkeys ▸ hpast.keys

theorem append (hpast : scanner.Past front) {added : List Located}
    (htokens : scanner'.tokens = scanner.tokens ++ added)
    (hkeys : scanner'.keys = scanner.keys) : scanner'.Past front where
  tokens := htokens ▸ hpast.tokens.trans (List.prefix_append _ _)
  keys := hkeys ▸ hpast.keys

theorem setKey (hpast : scanner.Past front) {key : Option PossibleKey}
    (hkey : ∀ possible, key = some possible → front.length ≤ possible.place) :
    (scanner.setKey key).Past front where
  tokens := hpast.tokens
  keys possible hmem := by
    rcases List.mem_cons.mp hmem with heq | hrest
    · exact hkey possible heq.symm
    · exact hpast.keys possible (List.mem_of_mem_tail hrest)

theorem length_le (hpast : scanner.Past front) : front.length ≤ scanner.tokens.length :=
  hpast.tokens.length_le

theorem moved (hpast : scanner.Past front) (cursor : Cursor) :
    { scanner with cursor := cursor }.Past front :=
  hpast.congr rfl rfl

theorem push (hpast : scanner.Past front) (token : Token) (mark : Mark) :
    (scanner.push token mark).Past front :=
  hpast.append rfl rfl

theorem take (hpast : scanner.Past front) (token : Token) (count : Nat) :
    (scanner.take token count).Past front :=
  hpast.append rfl rfl

theorem allowKey (hpast : scanner.Past front) (allowed : Bool) :
    (scanner.allowKey allowed).Past front :=
  hpast.congr rfl rfl

theorem dropKey (hpast : scanner.Past front) (hdrop : scanner.dropKey = .ok scanner') :
    scanner'.Past front := by
  unfold Scanner.dropKey at hdrop
  split at hdrop
  · split at hdrop
    · cases hdrop
    · cases hdrop
      exact hpast.setKey (by simp)
  · cases hdrop
    exact hpast

theorem saveKey (hpast : scanner.Past front) (hsave : scanner.saveKey = .ok scanner') :
    scanner'.Past front := by
  unfold Scanner.saveKey at hsave
  split at hsave
  · obtain ⟨dropped, hdrop, hset⟩ := bind_eq_ok.mp hsave
    cases hset
    refine (hpast.dropKey hdrop).setKey ?_
    intro possible heq
    cases heq
    exact hpast.length_le
  · cases hsave
    exact hpast

theorem openBlock (hpast : scanner.Past front) {place : Nat} (hplace : front.length ≤ place)
    (column : Nat) (token : Token) (mark : Mark) :
    (scanner.openBlock column place token mark).Past front := by
  unfold Scanner.openBlock
  split
  · exact ⟨prefix_insertIdx hpast.tokens hplace _, hpast.keys⟩
  · exact hpast

theorem closeBlocks (hpast : scanner.Past front) (isLeft : Nat → Bool) :
    (scanner.closeBlocks isLeft).Past front := by
  unfold Scanner.closeBlocks
  split
  · exact hpast
  · exact hpast.append rfl rfl

theorem skipSpace (hpast : scanner.Past front) (fuel : Nat) :
    (Scanner.skipSpace fuel scanner).Past front := by
  induction fuel generalizing scanner with
  | zero => exact hpast
  | succ fuel ih =>
      unfold Scanner.skipSpace
      dsimp only
      split
      · exact ih (hpast.congr rfl rfl)
      · exact hpast.congr rfl rfl

theorem dropStaleKeys (hpast : scanner.Past front)
    (hdrop : scanner.dropStaleKeys = .ok scanner') : scanner'.Past front := by
  unfold Scanner.dropStaleKeys at hdrop
  dsimp only at hdrop
  split at hdrop
  · cases hdrop
  · cases hdrop
    refine ⟨hpast.tokens, fun key hkey => hpast.keys key ?_⟩
    obtain ⟨key', hmem, hfilter⟩ := List.mem_map.mp hkey
    rw [Option.filter_eq_some_iff] at hfilter
    exact hfilter.1 ▸ hmem

/-! ## Fetching -/

theorem fetchEnd (hpast : scanner.Past front) (hfetch : scanner.fetchEnd = .ok scanner') :
    scanner'.Past front := by
  obtain ⟨dropped, hdrop, hpush⟩ := bind_eq_ok.mp hfetch
  cases hpush
  have hdropped := ((hpast.moved _).closeBlocks _).dropKey hdrop
  exact (hdropped.push _ _).congr rfl rfl

theorem fetchDocumentMark (hpast : scanner.Past front) {token : Token}
    (hfetch : scanner.fetchDocumentMark token = .ok scanner') : scanner'.Past front := by
  obtain ⟨dropped, hdrop, htake⟩ := bind_eq_ok.mp hfetch
  cases htake
  exact (((hpast.closeBlocks _).dropKey hdrop).take _ _).allowKey false

theorem fetchDirective (hpast : scanner.Past front)
    (hfetch : scanner.fetchDirective = .ok scanner') : scanner'.Past front := by
  obtain ⟨dropped, hdrop, hread⟩ := bind_eq_ok.mp hfetch
  obtain ⟨⟨token, cursor⟩, -, hpush⟩ := bind_eq_ok.mp hread
  cases hpush
  have hdropped := (hpast.closeBlocks _).dropKey hdrop
  exact ((hdropped.push _ _).allowKey false).moved cursor

theorem fetchFlowStart (hpast : scanner.Past front) {token : Token}
    (hfetch : scanner.fetchFlowStart token = .ok scanner') : scanner'.Past front := by
  obtain ⟨saved, hsave, htake⟩ := bind_eq_ok.mp hfetch
  cases htake
  have hsaved := hpast.saveKey hsave
  refine ⟨(hsaved.take token 1).tokens, fun key hkey => ?_⟩
  exact hsaved.keys key (by simpa using hkey)

theorem fetchFlowEnd (hpast : scanner.Past front) {token : Token}
    (hfetch : scanner.fetchFlowEnd token = .ok scanner') : scanner'.Past front := by
  obtain ⟨dropped, hdrop, htake⟩ := bind_eq_ok.mp hfetch
  cases htake
  have hdropped := hpast.dropKey hdrop
  refine ⟨(hdropped.take token 1).tokens, fun key hkey => hdropped.keys key ?_⟩
  dsimp only at hkey
  split at hkey
  · exact List.mem_of_mem_tail hkey
  · exact hkey

theorem fetchFlowEntry (hpast : scanner.Past front)
    (hfetch : scanner.fetchFlowEntry = .ok scanner') : scanner'.Past front := by
  obtain ⟨dropped, hdrop, htake⟩ := bind_eq_ok.mp hfetch
  cases htake
  exact ((hpast.dropKey hdrop).take _ _).allowKey true

theorem openAtIndicator (hpast : scanner.Past front) {token : Token}
    (hopen : scanner.openAtIndicator token = .ok scanner') : scanner'.Past front := by
  unfold Scanner.openAtIndicator at hopen
  split at hopen
  · cases hopen
    exact hpast
  · split at hopen
    · cases hopen
      exact hpast.openBlock hpast.length_le _ _ _
    · cases hopen

theorem fetchBlockEntry (hpast : scanner.Past front)
    (hfetch : scanner.fetchBlockEntry = .ok scanner') : scanner'.Past front := by
  obtain ⟨opened, hopen, hrest⟩ := bind_eq_ok.mp hfetch
  obtain ⟨dropped, hdrop, htake⟩ := bind_eq_ok.mp hrest
  cases htake
  exact (((hpast.openAtIndicator hopen).dropKey hdrop).take _ _).allowKey true

theorem fetchKey (hpast : scanner.Past front) (hfetch : scanner.fetchKey = .ok scanner') :
    scanner'.Past front := by
  obtain ⟨opened, hopen, hrest⟩ := bind_eq_ok.mp hfetch
  obtain ⟨dropped, hdrop, htake⟩ := bind_eq_ok.mp hrest
  cases htake
  exact (((hpast.openAtIndicator hopen).dropKey hdrop).take _ _).allowKey _

theorem fetchValue (hpast : scanner.Past front) (hfetch : scanner.fetchValue = .ok scanner') :
    scanner'.Past front := by
  unfold Scanner.fetchValue at hfetch
  dsimp only at hfetch
  split at hfetch
  next key hkey =>
    -- The possible key becomes one, and its token goes to the place that was kept for it.
    cases hfetch
    have hplace : front.length ≤ key.place := hpast.keys key (List.mem_of_mem_head? hkey)
    have hkeyed : { scanner with
        tokens := scanner.tokens.insertIdx key.place ⟨.key key.mark, key.mark⟩ }.Past front :=
      ⟨prefix_insertIdx hpast.tokens hplace _, hpast.keys⟩
    have hopened := hkeyed.openBlock hplace key.mark.column .blockMappingStart key.mark
    exact ((hopened.setKey (by simp)).take _ _).allowKey false
  next =>
    obtain ⟨opened, hopen, htake⟩ := bind_eq_ok.mp hfetch
    cases htake
    exact ((hpast.openAtIndicator hopen).take _ _).allowKey _

theorem fetchName (hpast : scanner.Past front) {token : String → Token}
    (hfetch : scanner.fetchName token = .ok scanner') : scanner'.Past front := by
  obtain ⟨saved, hsave, hread⟩ := bind_eq_ok.mp hfetch
  obtain ⟨⟨name, cursor⟩, -, hpush⟩ := bind_eq_ok.mp hread
  cases hpush
  exact (((hpast.saveKey hsave).push _ _).allowKey false).moved cursor

theorem fetchTag (hpast : scanner.Past front) (hfetch : scanner.fetchTag = .ok scanner') :
    scanner'.Past front := by
  obtain ⟨saved, hsave, hread⟩ := bind_eq_ok.mp hfetch
  obtain ⟨⟨name, cursor⟩, -, hpush⟩ := bind_eq_ok.mp hread
  cases hpush
  exact (((hpast.saveKey hsave).push _ _).allowKey false).moved cursor

theorem pushScalar (hpast : scanner.Past front) (style : ScalarStyle) (text : List Char)
    (cursor : Cursor) : (scanner.pushScalar style text cursor).Past front :=
  (hpast.push _ _).moved cursor

theorem fetchBlock (hpast : scanner.Past front) {kind : Block.Kind}
    (hfetch : scanner.fetchBlock kind = .ok scanner') : scanner'.Past front := by
  obtain ⟨dropped, hdrop, hread⟩ := bind_eq_ok.mp hfetch
  obtain ⟨⟨text, cursor⟩, -, hpush⟩ := bind_eq_ok.mp hread
  cases hpush
  exact ((hpast.dropKey hdrop).pushScalar _ _ _).allowKey true

theorem fetchQuoted (hpast : scanner.Past front) {kind : Quoted.Kind}
    (hfetch : scanner.fetchQuoted kind = .ok scanner') : scanner'.Past front := by
  obtain ⟨saved, hsave, hread⟩ := bind_eq_ok.mp hfetch
  obtain ⟨⟨text, cursor⟩, -, hpush⟩ := bind_eq_ok.mp hread
  cases hpush
  exact ((hpast.saveKey hsave).pushScalar _ _ _).allowKey false

theorem fetchPlain (hpast : scanner.Past front) (hfetch : scanner.fetchPlain = .ok scanner') :
    scanner'.Past front := by
  obtain ⟨saved, hsave, hread⟩ := bind_eq_ok.mp hfetch
  obtain ⟨reading, -, hpush⟩ := bind_eq_ok.mp hread
  cases hpush
  exact ((hpast.saveKey hsave).pushScalar _ _ _).allowKey _

theorem of_ite {p : Prop} [Decidable p] {first second : Except Fault Scanner} {goal : Prop}
    (hfirst : first = .ok scanner' → goal) (hsecond : second = .ok scanner' → goal) :
    (if p then first else second) = .ok scanner' → goal := by
  split
  · exact hfirst
  · exact hsecond

/-- Every kind of token is put behind the ones in front. -/
theorem fetchToken (hpast : scanner.Past front) :
    scanner.fetchToken = .ok scanner' → scanner'.Past front := by
  unfold Scanner.fetchToken
  dsimp only
  split
  · exact hpast.fetchEnd
  · -- The cases stand in the order in which the first character is looked at.
    apply of_ite hpast.fetchDirective
    apply of_ite hpast.fetchDocumentMark
    apply of_ite hpast.fetchDocumentMark
    apply of_ite hpast.fetchFlowStart
    apply of_ite hpast.fetchFlowStart
    apply of_ite hpast.fetchFlowEnd
    apply of_ite hpast.fetchFlowEnd
    apply of_ite hpast.fetchFlowEntry
    apply of_ite hpast.fetchBlockEntry
    apply of_ite hpast.fetchKey
    apply of_ite hpast.fetchValue
    apply of_ite hpast.fetchName
    apply of_ite hpast.fetchName
    apply of_ite hpast.fetchTag
    apply of_ite hpast.fetchBlock
    apply of_ite hpast.fetchBlock
    apply of_ite hpast.fetchQuoted
    apply of_ite hpast.fetchQuoted
    apply of_ite hpast.fetchPlain
    intro hfail
    cases hfail

theorem fetch (hpast : scanner.Past front) (hfetch : scanner.fetch = .ok scanner') :
    scanner'.Past front := by
  obtain ⟨settled, hdrop, hlook⟩ := bind_eq_ok.mp hfetch
  obtain ⟨_, -, htoken⟩ := bind_eq_ok.mp hlook
  obtain ⟨next, hnext, hlast⟩ := bind_eq_ok.mp htoken
  obtain ⟨_, -, hpure⟩ := bind_eq_ok.mp hlast
  cases hpure
  have hsettled := (hpast.skipSpace _).dropStaleKeys hdrop
  exact (hsettled.closeBlocks _).fetchToken hnext

/-! ## Running -/

theorem le_released (hpast : scanner.Past front) : front.length ≤ scanner.released := by
  have hfold (keys : List (Option PossibleKey))
      (hkeys : ∀ key, some key ∈ keys → front.length ≤ key.place) (least : Nat)
      (hleast : front.length ≤ least) :
      front.length ≤
        keys.foldl (fun least key => key.elim least fun key => min least key.place) least := by
    induction keys generalizing least with
    | nil => exact hleast
    | cons key rest ih =>
        refine ih (fun key hkey => hkeys key (List.mem_cons_of_mem _ hkey)) _ ?_
        cases key with
        | none => exact hleast
        | some key => exact Nat.le_min.mpr ⟨hleast, hkeys key List.mem_cons_self⟩
  exact hfold scanner.keys hpast.keys _ hpast.length_le

theorem prefix_take (hpast : scanner.Past front) {kept : Nat} (hkept : front.length ≤ kept) :
    front <+: scanner.tokens.take kept :=
  List.prefix_take_iff.mpr ⟨hpast.tokens, hkept⟩

/-- However the text goes on, the tokens in front are among the tokens that are returned. -/
theorem run (hpast : scanner.Past front) {kept : Nat} (hkept : front.length ≤ kept)
    (fuel : Nat) : front <+: (Scanner.run fuel scanner kept).1 := by
  induction fuel generalizing scanner kept with
  | zero => exact hpast.prefix_take hkept
  | succ fuel ih =>
      unfold Scanner.run
      split
      next => exact hpast.prefix_take hkept
      next settled hdrop =>
        have hsettled := hpast.dropStaleKeys hdrop
        split
        · exact hsettled.tokens
        · split
          next => exact hsettled.prefix_take hsettled.le_released
          next next hfetch => exact ih (hsettled.fetch hfetch) hsettled.le_released

end Past

/-- Where nothing is held back, the tokens that have been fetched stay. -/
theorem prefix_run (scanner : Scanner) (hkeys : scanner.keys = [none]) (fuel kept : Nat) :
    scanner.tokens <+: (run (fuel + 1) scanner kept).1 := by
  have hpast : scanner.Past scanner.tokens := ⟨List.prefix_rfl, by simp [hkeys]⟩
  unfold run
  rw [dropStaleKeys_none hkeys]
  dsimp only
  split
  · exact List.prefix_rfl
  · split
    next => exact hpast.prefix_take hpast.le_released
    next next hfetch => exact (hpast.fetch hfetch).run hpast.le_released fuel

end Scanner

/-! ## Lines in front of a key -/

variable {lines : List (String × String)} {key rest : List Char} {text : String}

theorem length_linesText_key (lines : List (String × String)) (hkey : IsWord key)
    (rest : List Char) :
    ∃ extra, (linesText lines ++ (key ++ ':' :: rest)).length + 2 =
      extra + 1 + 1 + 1 + 3 * lines.length := by
  have hlength := length_linesText lines
  have hpos := List.length_pos_iff.mpr hkey.nonempty
  refine ⟨(linesText lines).length - 3 * lines.length + (key.length - 1) + rest.length + 1, ?_⟩
  simp only [List.length_append, List.length_cons]
  omega

/-- Scanning a text comes to the key behind some lines. -/
theorem scan_eq_behindKey (hlines : ∀ line ∈ lines, IsLine line) (hkey : IsWord key)
    (hblank : startsBlank rest = true) (hallowed : rest.all isAllowed = true)
    (htext : text.toList = linesText lines ++ (key ++ ':' :: rest)) :
    ∃ fuel, Located.scan text =
      (Scanner.behindKey (!lines.isEmpty) (linesTokens false .origin lines)
        (linesEnd .origin lines) key rest).run (fuel + 2)
          (linesTokens false .origin lines).length := by
  have hcolon : isAllowed ':' = true := by decide
  have hkeyAllowed : key.all isAllowed = true :=
    List.all_eq_true.mpr fun c hc => isAllowed_of_isScript (hkey.script c hc)
  have hstart : Scanner.ofText text.toList =
      .atLine false [] ⟨.origin, linesText lines ++ (key ++ ':' :: rest)⟩ := by
    simp [Scanner.ofText, htext, all_isAllowed_linesText hlines, hkeyAllowed, hcolon, hallowed,
      Scanner.start, Scanner.atLine, Cursor.start]
  have horigin : Mark.origin.column = 0 := rfl
  obtain ⟨extra, hfuel⟩ := length_linesText_key lines hkey rest
  obtain ⟨kept, hrun⟩ := Scanner.run_lines hlines (hkey.goesOn (':' :: rest)) horigin false []
    (extra + 1 + 1 + 1) 0
  have hfetch := Scanner.fetch_key (!lines.isEmpty) (linesTokens false .origin lines) hkey
    (column_linesEnd horigin lines) hblank
  refine ⟨extra, ?_⟩
  calc Located.scan text
      = (Scanner.atLine false [] ⟨.origin, linesText lines ++ (key ++ ':' :: rest)⟩).run
          ((linesText lines ++ (key ++ ':' :: rest)).length + 2) 0 := by
        rw [Located.scan, hstart]
        rfl
    _ = (Scanner.atLine (!lines.isEmpty) (linesTokens false .origin lines)
          ⟨linesEnd .origin lines, key ++ ':' :: rest⟩).run (extra + 1 + 1 + 1) kept := by
        rw [hfuel, hrun, Bool.false_or, List.nil_append]
    _ = _ := Scanner.run_of_fetch (Scanner.dropStaleKeys_none rfl) rfl hfetch _ _

/-- A key that is in reach of its colon is scanned as one, whatever the text goes on with. -/
theorem scan_key (hlines : ∀ line ∈ lines, IsLine line) (hkey : IsWord key)
    (hsize : bytes key ≤ 1024) (hblank : startsBlank rest = true)
    (hallowed : rest.all isAllowed = true)
    (htext : text.toList = linesText lines ++ (key ++ ':' :: rest)) :
    ∃ more fault, Located.scan text =
      (linesTokens false .origin lines
        ++ Scanner.keyTokens (!lines.isEmpty) (linesEnd .origin lines) key ++ more, fault) := by
  obtain ⟨fuel, hscan⟩ := scan_eq_behindKey hlines hkey hblank hallowed htext
  have hmark : (linesEnd .origin lines).column = 0 := column_linesEnd rfl lines
  rw [Scanner.run_of_fetch (Scanner.dropStaleKeys_behindKey hsize) rfl
    (Scanner.fetch_colon hmark hkey hsize hblank)] at hscan
  obtain ⟨more, hmore⟩ := Scanner.prefix_run (Scanner.behindColon (!lines.isEmpty)
    (linesTokens false .origin lines) (linesEnd .origin lines) key rest) rfl fuel _
  refine ⟨more, _, hscan.trans (Prod.ext hmore.symm rfl)⟩

/-- Behind other lines nothing but a key can stand, so one that goes stale is a fault. -/
theorem run_stale (tokens : List Located) (mark : Mark) (hsize : 1024 < bytes key)
    (fuel : Nat) :
    ∃ fault, (Scanner.behindKey true tokens mark key rest).run (fuel + 1) tokens.length =
      (tokens, some fault) := by
  have hstale : mark.index + 1024 < mark.index + bytes key := by omega
  simp [Scanner.run, Scanner.dropStaleKeys, Scanner.behindKey, Scanner.isStale, hstale,
    Scanner.fail, Cursor.fail]

/-- At the start of a text a key that goes stale is left as a scalar, and the colon behind it
is a fault. -/
theorem run_stale_first (mark : Mark) (hkey : IsWord key) (hsize : 1024 < bytes key)
    (hblank : startsBlank rest = true) (fuel kept : Nat) :
    ∃ fault, (Scanner.behindKey false [] mark key rest).run (fuel + 1) kept =
      ([⟨.scalar ⟨.plain, String.ofList key⟩, mark⟩], some fault) := by
  have hstale : mark.index + 1024 < mark.index + bytes key := by omega
  let settled : Scanner := { Scanner.behindKey false [] mark key rest with keys := [none] }
  let fault : Fault := ⟨"a block collection may not start here", mark.past key⟩
  have hdrop : (Scanner.behindKey false [] mark key rest).dropStaleKeys = .ok settled := by
    simp [settled, Scanner.dropStaleKeys, Scanner.behindKey, Scanner.isStale, hstale]
  have hcolumn : (Scanner.behindKey false [] mark key rest).cursor.column ≠ 0 :=
    Scanner.column_behindKey hkey
  have hcolon : settled.fetchToken = settled.fetchValue :=
    Scanner.fetchToken_colon rfl hcolumn hblank
  have htoken : settled.fetchToken = .error fault := hcolon.trans rfl
  have hindents : settled.indents = if false then [0] else [] := rfl
  have hrest : GoesOn settled.cursor.rest := goesOn_cons (by decide)
  have hfetch : settled.fetch = .error fault :=
    Scanner.fetch_error_of_skip (Scanner.skipSpace_of_goesOn hrest _)
      (Scanner.dropStaleKeys_none rfl) rfl (Scanner.closeBlocks_column hindents _) htoken
  exact ⟨fault, Scanner.run_of_fault hdrop rfl hfetch fuel kept⟩

/-- A key out of reach of its colon is a fault. -/
theorem scan_long_key (hlines : ∀ line ∈ lines, IsLine line) (hkey : IsWord key)
    (hsize : 1024 < bytes key) (hblank : startsBlank rest = true)
    (hallowed : rest.all isAllowed = true)
    (htext : text.toList = linesText lines ++ (key ++ ':' :: rest)) :
    ∃ fault, Located.scan text =
      (if lines.isEmpty then [⟨.scalar ⟨.plain, String.ofList key⟩, .origin⟩]
        else linesTokens false .origin lines, some fault) := by
  obtain ⟨fuel, hscan⟩ := scan_eq_behindKey hlines hkey hblank hallowed htext
  rw [hscan]
  cases lines with
  | nil => exact run_stale_first _ hkey hsize hblank _ _
  | cons line others => exact run_stale _ _ hsize _

end Retention.Yaml
