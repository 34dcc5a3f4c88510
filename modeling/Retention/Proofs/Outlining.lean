import Retention.Proofs.Fetching

/-!
# Outlines of lines

The tokens of lines are walked through two nodes a line, a key and a value, inside the one
mapping that the first line opens. None of these nodes has an anchor, so they are entries
of the outline as they are, and what stands behind them does not matter to them. So the
outlines of texts keep the laws of readers.
-/

namespace Retention.Yaml

/-! ## Nodes of lines -/

/-- The keys and values of lines. -/
def linesHeads : Mark → List (String × String) → List Head
  | _, [] => []
  | mark, line :: rest =>
      plainHead line.1 mark
        :: plainHead line.2 (Scanner.valueMark mark line.1.toList)
        :: linesHeads (Scanner.nextMark mark line.1.toList line.2.toList) rest

theorem lists_linesHeads (mark : Mark) (lines : List (String × String)) :
    Lists lines (linesHeads mark lines) := by
  induction lines generalizing mark with
  | nil => exact .nil
  | cons line others ih => exact .cons line _ _ (ih _)

/-- A node without an anchor that stands at the top or directly in the top node. -/
def Head.placed (head : Head) : Placed :=
  ⟨.head none head, true⟩

theorem linesTokens_false {lines : List (String × String)} (hsome : lines ≠ []) (mark : Mark) :
    linesTokens false mark lines = ⟨.blockMappingStart, mark⟩ :: linesTokens true mark lines := by
  obtain ⟨line, rest, rfl⟩ := List.exists_cons_of_ne_nil hsome
  rfl

theorem length_linesTokens (mark : Mark) (lines : List (String × String)) :
    (linesTokens true mark lines).length = 4 * lines.length := by
  induction lines generalizing mark with
  | nil => rfl
  | cons line others ih =>
      have hothers := ih (Scanner.nextMark mark line.1.toList line.2.toList)
      simp only [linesTokens, Scanner.lineTokens, Scanner.keyTokens, List.length_append,
        List.length_cons, List.length_nil, hothers, if_true]
      omega

namespace Walk

variable {handles : Handles}

/-- A walk in front of which some nodes have been passed. -/
def after (heads : List Head) (walk : Walk) : Walk :=
  { walk with nodes := heads.map Head.placed ++ walk.nodes }

theorem takeNode_plain (position : Position) (next : List Frame) (text : String) (mark : Mark)
    (rest : List Located) :
    takeNode handles position next (⟨.scalar ⟨.plain, text⟩, mark⟩ :: rest) =
      .ok ⟨some (.head none (plainHead text mark)), next, rest⟩ := by
  simp [takeNode, takeProperties, contentOf?, plainHead, bind, Except.bind, pure, Except.pure]

theorem step_key (stop mark mark' : Mark) (text : String) (rest : List Located) :
    Frame.step handles .blockKey
        (⟨.key stop, mark⟩ :: ⟨.scalar ⟨.plain, text⟩, mark'⟩ :: rest) =
      .ok ⟨some (.head none (plainHead text mark')), [.blockValue], rest⟩ := by
  simp [Frame.step, takeBehind, endsBlockNode, takeNode_plain]

theorem step_value (stop mark mark' : Mark) (text : String) (rest : List Located) :
    Frame.step handles .blockValue
        (⟨.value stop, mark⟩ :: ⟨.scalar ⟨.plain, text⟩, mark'⟩ :: rest) =
      .ok ⟨some (.head none (plainHead text mark')), [.blockKey], rest⟩ := by
  simp [Frame.step, takeBehind, endsBlockNode, takeNode_plain]

/-- Two rounds pass a line. -/
theorem throughFrames_lines (lines : List (String × String)) (mark : Mark) (fuel : Nat)
    (rest : List Located) :
    throughFrames handles (fuel + 2 * lines.length) [.blockKey]
        (linesTokens true mark lines ++ rest) =
      after (linesHeads mark lines) (throughFrames handles fuel [.blockKey] rest) := by
  induction lines generalizing mark with
  | nil => simp [linesTokens, linesHeads, after]
  | cons line others ih =>
      have hfuel : fuel + 2 * (line :: others).length = fuel + 2 * others.length + 1 + 1 := by
        simp only [List.length_cons]
        omega
      have hmore := ih (Scanner.nextMark mark line.1.toList line.2.toList)
      rw [hfuel]
      simp [linesTokens, Scanner.lineTokens, Scanner.keyTokens, throughFrames, step_key,
        step_value, hmore, linesHeads, after, behind, Head.placed]

/-- The nodes of a walk into a mapping that starts with some lines, or with a key behind
them. -/
theorem throughText_mapping (mark : Mark) (tokens : List Located) :
    throughText (⟨.blockMappingStart, mark⟩ :: tokens) =
      after [mappingHead mark]
        (throughFrames Handles.known (rounds tokens) [.blockKey] tokens) := by
  simp [throughText, startsExplicit, throughNode, takeNode, takeProperties, contentOf?, after,
    behind, Head.placed, mappingHead, bind, Except.bind, pure, Except.pure]

theorem after_after (heads heads' : List Head) (walk : Walk) :
    after heads (after heads' walk) = after (heads ++ heads') walk := by
  simp [after]

/-- A key behind some lines is passed whatever follows it. -/
theorem throughFrames_key (mark : Mark) (key : List Char) (fuel : Nat) (rest : List Located) :
    throughFrames handles (fuel + 1) [.blockKey] (Scanner.keyTokens true mark key ++ rest) =
      after [plainHead (String.ofList key) mark]
        (throughFrames handles fuel [.blockValue]
          (⟨.value ((mark.past key).after ':'), mark.past key⟩ :: rest)) := by
  simp [Scanner.keyTokens, throughFrames, step_key, after, behind, Head.placed]

/-- A mapping that starts with some lines is walked through line by line. -/
theorem throughText_lines (mark : Mark) (lines : List (String × String)) (tail : List Located) :
    ∃ fuel, throughText (⟨.blockMappingStart, mark⟩ :: (linesTokens true mark lines ++ tail)) =
      after (mappingHead mark :: linesHeads mark lines)
        (throughFrames Handles.known (fuel + 1) [.blockKey] tail) := by
  have hrounds : rounds (linesTokens true mark lines ++ tail) =
      14 * lines.length + 4 * tail.length + 3 + 1 + 2 * lines.length := by
    simp only [rounds, List.length_append, length_linesTokens]
    omega
  refine ⟨14 * lines.length + 4 * tail.length + 3, ?_⟩
  rw [throughText_mapping, hrounds, throughFrames_lines, after_after]
  rfl

/-- A text that breaks off behind a plain scalar has no other node. -/
theorem throughText_plain (text : String) (mark : Mark) :
    throughText [⟨.scalar ⟨.plain, text⟩, mark⟩] = after [plainHead text mark] ⟨[], .ok []⟩ := by
  simp [throughText, startsExplicit, throughNode, takeNode_plain, throughFrames, after, behind,
    Head.placed]

theorem throughFrames_close (mark mark' : Mark) (fuel : Nat) :
    throughFrames handles (fuel + 1) [.blockKey] [⟨.blockEnd, mark⟩, ⟨.streamEnd, mark'⟩] =
      ⟨[], .ok [⟨.streamEnd, mark'⟩]⟩ := by
  simp [throughFrames, Frame.step, Step.close, behind]

theorem throughFrames_nil (fuel : Nat) :
    throughFrames handles (fuel + 1) [.blockKey] [] = ⟨[], .error none⟩ := by
  simp [throughFrames, Frame.step, stopped]

end Walk

/-! ## Numbering -/

theorem Numbered.ofNodes_placed (heads : List Head) (rest : List Placed) (anchors : Anchors) :
    Numbered.ofNodes (heads.map Head.placed ++ rest) anchors =
      let numbered := Numbered.ofNodes rest anchors
      { numbered with nodes := heads.map NumberedNode.head ++ numbered.nodes } := by
  induction heads with
  | nil => rfl
  | cons head others ih =>
      simp only [List.map_cons, List.cons_append, Head.placed] at ih ⊢
      simp [Numbered.ofNodes, Anchors.note, behind, ih]

/-! ## Outlines -/

namespace Outline

variable {tokens : List Located} {heads : List Head} {walk : Walk}

theorem filterMap_entry? (anchors : Anchors) (heads : List Head) :
    (heads.map NumberedNode.head).filterMap anchors.entry? = heads.map Entry.node := by
  induction heads with
  | nil => rfl
  | cons head others ih => simp [Anchors.entry?, ih]

/-- A walk shows its first nodes as entries, whatever comes behind them. -/
theorem entries_ofTokens (hwalk : Walk.throughText tokens = walk.after heads)
    (fault : Option Fault) :
    ∃ more, (ofTokens tokens fault).entries = heads.map Entry.node ++ more := by
  have hnodes : (walk.after heads).nodes = heads.map Head.placed ++ walk.nodes := rfl
  simp only [ofTokens, hwalk, hnodes, Numbered.ofNodes_placed, List.filterMap_append,
    filterMap_entry?]
  exact ⟨_, rfl⟩

variable {ending : Reading (List Located)}

theorem ofTokens_accepted (hwalk : Walk.throughText tokens = Walk.after heads ⟨[], ending⟩)
    (haccept : ending >>= acceptRest false = .ok ()) (fault : Option Fault) :
    ofTokens tokens fault = ⟨heads.map Entry.node, none⟩ := by
  have hnodes := Numbered.ofNodes_placed heads [] .none
  simp only [Numbered.ofNodes, List.append_nil] at hnodes
  simp only [ofTokens, hwalk, Walk.after, List.append_nil, hnodes, filterMap_entry?, haccept,
    Option.none_or]

theorem ofTokens_stopped (hwalk : Walk.throughText tokens = Walk.after heads ⟨[], ending⟩)
    (hstop : ending >>= acceptRest false = .error none) (fault : Option Fault) :
    ofTokens tokens fault = ⟨heads.map Entry.node, fault⟩ := by
  have hnodes := Numbered.ofNodes_placed heads [] .none
  simp only [Numbered.ofNodes, List.append_nil] at hnodes
  simp only [ofTokens, hwalk, Walk.after, List.append_nil, hnodes, filterMap_entry?, hstop,
    Option.none_or]

variable {lines : List (String × String)} {key rest : List Char} {text : String}

/-- The outline of a text of lines: the mapping, and the keys and values by turns. -/
theorem ofText_lines (hlines : ∀ line ∈ lines, IsLine line) (hsome : lines ≠ [])
    (htext : Consists lines text.toList) :
    ofText text =
      ⟨(mappingHead .origin :: linesHeads .origin lines).map Entry.node, none⟩ := by
  obtain ⟨stop, hscan⟩ := scan_lines hlines hsome htext
  obtain ⟨fuel, hwalk⟩ := Walk.throughText_lines .origin lines
    [⟨.blockEnd, stop⟩, ⟨.streamEnd, stop⟩]
  rw [Walk.throughFrames_close] at hwalk
  rw [← List.cons_append, ← linesTokens_false hsome] at hwalk
  rw [ofText, hscan]
  exact ofTokens_accepted hwalk rfl none

/-- A key behind some lines is an entry, whatever the text goes on with. -/
theorem ofText_key (hlines : ∀ line ∈ lines, IsLine line) (hkey : IsWord key)
    (hsize : bytes key ≤ 1024) (hblank : startsBlank rest = true)
    (hallowed : rest.all isAllowed = true)
    (htext : text.toList = linesText lines ++ (key ++ ':' :: rest)) :
    ∃ more, (ofText text).entries =
      (mappingHead .origin :: linesHeads .origin lines
        ++ [plainHead (String.ofList key) (linesEnd .origin lines)]).map Entry.node ++ more := by
  obtain ⟨others, fault, hscan⟩ := scan_key hlines hkey hsize hblank hallowed htext
  obtain ⟨fuel, hwalk⟩ := Walk.throughText_lines .origin lines
    (Scanner.keyTokens true (linesEnd .origin lines) key ++ others)
  rw [Walk.throughFrames_key, Walk.after_after] at hwalk
  have htokens : linesTokens false .origin lines
      ++ Scanner.keyTokens (!lines.isEmpty) (linesEnd .origin lines) key ++ others =
      ⟨.blockMappingStart, .origin⟩ :: (linesTokens true .origin lines
        ++ (Scanner.keyTokens true (linesEnd .origin lines) key ++ others)) := by
    cases lines with
    | nil => rfl
    | cons line more => simp [linesTokens, Scanner.lineTokens, Scanner.keyTokens]
  rw [← htokens] at hwalk
  rw [ofText, hscan]
  exact entries_ofTokens hwalk fault

/-- Where a key is out of reach of its colon, the outline shows the lines in front of it, or
the key alone where there are none, and a fault. -/
theorem ofText_long_key (hlines : ∀ line ∈ lines, IsLine line) (hkey : IsWord key)
    (hsize : 1024 < bytes key) (hblank : startsBlank rest = true)
    (hallowed : rest.all isAllowed = true)
    (htext : text.toList = linesText lines ++ (key ++ ':' :: rest)) :
    ∃ fault, ofText text =
      ⟨(if lines.isEmpty then [plainHead (String.ofList key) .origin]
        else mappingHead .origin :: linesHeads .origin lines).map Entry.node, some fault⟩ := by
  obtain ⟨fault, hscan⟩ := scan_long_key hlines hkey hsize hblank hallowed htext
  refine ⟨fault, ?_⟩
  rw [ofText, hscan]
  by_cases hnone : lines = []
  · subst hnone
    exact ofTokens_stopped (Walk.throughText_plain _ _) rfl (some fault)
  · obtain ⟨fuel, hwalk⟩ := Walk.throughText_lines .origin lines []
    rw [Walk.throughFrames_nil, List.append_nil, ← linesTokens_false hnone] at hwalk
    simp only [hnone, List.isEmpty_iff, if_false]
    exact ofTokens_stopped hwalk rfl (some fault)

end Outline

instance : LawfulReader where
  outline_lines hlines hsome htext :=
    ⟨.origin, _, lists_linesHeads .origin _, Outline.ofText_lines hlines hsome htext⟩
  outline_key {lines key _ _} hlines hkey hblank hallowed htext := by
    by_cases hsize : bytes key ≤ 1024
    · obtain ⟨more, hentries⟩ := Outline.ofText_key hlines hkey hsize hblank hallowed htext
      exact .inr ⟨_, _, _, more, lists_linesHeads .origin lines, hentries⟩
    · -- The colon is out of reach of the key, and the scan ends with a fault.
      obtain ⟨fault, houtline⟩ := Outline.ofText_long_key hlines hkey (by omega) hblank hallowed
        htext
      exact .inl ⟨fault, congrArg Outline.fault houtline⟩

end Retention.Yaml
