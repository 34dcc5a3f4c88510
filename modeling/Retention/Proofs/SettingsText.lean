import Retention.Codec.SettingsText
import Retention.Proofs.Digits
import Retention.Proofs.Outlining

/-!
# Settings read back from text

A text of settings gives some of them, each on a line of its own and in any order. It is
read as the defaults overwritten by what it gives, unless that cannot drive an analysis. A
line with a key that is no setting's, or one that has been given already, spoils a text
whatever follows, since the reader gets to it before anything behind it.
-/

namespace Retention.Settings

open Yaml

/-! ## Settings that are given -/

/-- The name of a setting as it is written. -/
def Name.label : Name → String
  | .maxPageNodes => "max-page-nodes"
  | .missingEdge => "missing-edge"
  | .overflow => "overflow"
  | .maxRootDistance => "max-root-distance"
  | .parallelAggregation => "parallel-aggregation"

/-- One setting and the value that it is given. -/
inductive Assignment where
  | maxPageNodes (size : UInt64)
  | missingEdge (policy : MissingEdgePolicy)
  | overflow (mode : OverflowMode)
  | maxRootDistance (distance : UInt64)
  | parallelAggregation (flag : Bool)
deriving DecidableEq, Repr

namespace Assignment

/-- The setting that is given a value. -/
def name : Assignment → Name
  | .maxPageNodes _ => .maxPageNodes
  | .missingEdge _ => .missingEdge
  | .overflow _ => .overflow
  | .maxRootDistance _ => .maxRootDistance
  | .parallelAggregation _ => .parallelAggregation

/-- The value as it is written. -/
def value : Assignment → String
  | .maxPageNodes size => size.toNat.repr
  | .missingEdge policy => policy.label
  | .overflow mode => mode.label
  | .maxRootDistance distance => distance.toNat.repr
  | .parallelAggregation flag => boolLabel flag

/-- The key and the value of a line that gives a setting. -/
def line (assignment : Assignment) : String × String :=
  (assignment.name.label, assignment.value)

/-- Settings in which one has been overwritten. -/
def overwrite (settings : Settings) : Assignment → Settings
  | .maxPageNodes size => { settings with maxPageNodes := size }
  | .missingEdge policy => { settings with missingEdge := policy }
  | .overflow mode => { settings with overflow := mode }
  | .maxRootDistance distance => { settings with maxRootDistance := distance }
  | .parallelAggregation flag => { settings with parallelAggregation := flag }

/-- A draft in which one more setting has been given. -/
def note (draft : Draft) : Assignment → Draft
  | .maxPageNodes size => { draft with maxPageNodes := some size }
  | .missingEdge policy => { draft with missingEdge := some policy }
  | .overflow mode => { draft with overflow := some mode }
  | .maxRootDistance distance => { draft with maxRootDistance := some distance }
  | .parallelAggregation flag => { draft with parallelAggregation := some flag }

/-- Every setting with the value that it has. -/
def all (settings : Settings) : List Assignment :=
  [.maxPageNodes settings.maxPageNodes, .missingEdge settings.missingEdge,
    .overflow settings.overflow, .maxRootDistance settings.maxRootDistance,
    .parallelAggregation settings.parallelAggregation]

end Assignment

/-- The text of the lines that give some settings. -/
def textOf (given : List Assignment) : String :=
  String.join (given.map fun assignment => writeLine assignment.line)

/-- The defaults overwritten by what is given. -/
def overwritten (given : List Assignment) : Settings :=
  given.foldl Assignment.overwrite default

theorem textOf_all (settings : Settings) : textOf (Assignment.all settings) = settings.toText :=
  rfl

theorem overwritten_all (settings : Settings) : overwritten (Assignment.all settings) = settings :=
  rfl

theorem nodup_all (settings : Settings) :
    ((Assignment.all settings).map Assignment.name).Nodup := by
  simp [Assignment.all, Assignment.name]

/-! ## Lines of settings -/

theorem isWord_of_all {word : List Char} (hword : word ≠ []) (hscript : word.all isScript = true) :
    IsWord word :=
  ⟨hword, fun c hc => List.all_eq_true.mp hscript c hc⟩

theorem isScript_of_isDigit {c : Char} (hc : c.isDigit = true) : isScript c = true := by
  simp [isScript, isWordChar, Char.isAlphanum, hc]

theorem isWord_repr (n : Nat) : IsWord n.repr.toList :=
  ⟨Text.repr_ne_nil n, fun _ hc => isScript_of_isDigit (Text.isDigit_of_mem_repr hc)⟩

theorem head?_repr_ne (n : Nat) : n.repr.toList.head? ≠ some '-' := by
  intro hhead
  have hhyphen : '-'.isDigit = true := Text.isDigit_of_mem_repr (List.mem_of_mem_head? hhead)
  cases hhyphen

theorem Name.isWord_label (name : Name) : IsWord name.label.toList := by
  cases name <;> exact isWord_of_all (by decide) (by decide)

theorem Name.bytes_label (name : Name) : bytes name.label.toList ≤ 1024 := by
  cases name <;> decide

theorem Assignment.isLine (assignment : Assignment) : IsLine assignment.line := by
  refine ⟨assignment.name.isWord_label, assignment.name.bytes_label, ?_, ?_⟩
  · cases assignment with
    | maxPageNodes size => exact isWord_repr _
    | missingEdge policy => cases policy <;> exact isWord_of_all (by decide) (by decide)
    | overflow mode => cases mode <;> exact isWord_of_all (by decide) (by decide)
    | maxRootDistance distance => exact isWord_repr _
    | parallelAggregation flag => cases flag <;> exact isWord_of_all (by decide) (by decide)
  · cases assignment with
    | maxPageNodes size => exact head?_repr_ne _
    | missingEdge policy => cases policy <;> decide
    | overflow mode => cases mode <;> decide
    | maxRootDistance distance => exact head?_repr_ne _
    | parallelAggregation flag => cases flag <;> decide

theorem isLine_of_mem {given : List Assignment} :
    ∀ line ∈ given.map Assignment.line, IsLine line := by
  intro line hline
  obtain ⟨assignment, -, rfl⟩ := List.mem_map.mp hline
  exact assignment.isLine

theorem textOf_cons (assignment : Assignment) (rest : List Assignment) :
    textOf (assignment :: rest) = writeLine assignment.line ++ textOf rest := by
  simp [textOf]

theorem toList_textOf (given : List Assignment) :
    (textOf given).toList = linesText (given.map Assignment.line) := by
  induction given with
  | nil => rfl
  | cons assignment rest ih =>
      simp [textOf_cons, ih, writeLine, linesText]

/-! ## Reading lines -/

variable {draft : Draft} {mark mapping : Mark}

theorem Name.lookup_label (name : Name) : Name.all.lookup name.label = some name := by
  cases name <;> rfl

theorem readName_label (name : Name) (hblank : draft.has name = false) :
    readName mapping draft (.node (plainHead name.label mark)) = .ok name := by
  simp [readName, Entry.head, plainHead, name.lookup_label, hblank]

theorem readSize_repr (size : UInt64) (place : Place) :
    readSize place (.node (plainHead size.toNat.repr mark)) = .ok size := by
  have hunsigned := Core.unsigned?_repr size.toNat_lt_size
  have hfits : size.toNat < UInt64.size := size.toNat_lt_size
  simp only [readSize, Entry.head, plainHead, Core.readable?, Option.bind_some, hunsigned, hfits,
    if_true, UInt64.ofNat_toNat]

theorem give_value (assignment : Assignment) (place : Place) :
    draft.give place (.node (plainHead assignment.value mark)) assignment.name =
      .ok (assignment.note draft) := by
  cases assignment with
  | maxPageNodes size =>
      simp only [Draft.give, Assignment.value, Assignment.name, readSize_repr]
      rfl
  | missingEdge policy => cases policy <;> rfl
  | overflow mode => cases mode <;> rfl
  | maxRootDistance distance =>
      simp only [Draft.give, Assignment.value, Assignment.name, readSize_repr]
      rfl
  | parallelAggregation flag => cases flag <;> rfl

theorem has_note (assignment : Assignment) (name : Name) :
    (assignment.note draft).has name = (draft.has name || decide (assignment.name = name)) := by
  cases assignment <;> cases name <;> simp [Assignment.note, Assignment.name, Draft.has]

theorem complete_note (assignment : Assignment) :
    (assignment.note draft).complete = assignment.overwrite draft.complete := by
  cases assignment <;> rfl

/-- What has been noted of some settings. -/
def noted (draft : Draft) (given : List Assignment) : Draft :=
  given.foldl (fun draft assignment => assignment.note draft) draft

theorem has_noted (given : List Assignment) (draft : Draft) (name : Name) :
    (noted draft given).has name = true ↔
      draft.has name = true ∨ name ∈ given.map Assignment.name := by
  induction given generalizing draft with
  | nil => simp [noted]
  | cons assignment rest ih =>
      have hrest := ih (assignment.note draft)
      simp only [has_note, Bool.or_eq_true, decide_eq_true_eq] at hrest
      simp only [noted, List.foldl_cons, List.map_cons, List.mem_cons] at hrest ⊢
      rw [hrest, or_assoc, eq_comm (a := name)]

theorem complete_noted (given : List Assignment) (draft : Draft) :
    (noted draft given).complete = given.foldl Assignment.overwrite draft.complete := by
  induction given generalizing draft with
  | nil => rfl
  | cons assignment rest ih =>
      have hrest := ih (assignment.note draft)
      rw [complete_note] at hrest
      exact hrest

/-- A line that gives a setting for the first time is read. -/
theorem readEntries_line (assignment : Assignment) (hblank : draft.has assignment.name = false)
    (mark mark' : Mark) (rest : List Entry) :
    readEntries mapping
        (.node (plainHead assignment.line.1 mark) :: .node (plainHead assignment.line.2 mark')
          :: rest) draft =
      readEntries mapping rest (assignment.note draft) := by
  have hname : readName mapping draft (.node (plainHead assignment.line.1 mark)) =
      .ok assignment.name :=
    readName_label assignment.name hblank
  have hvalue (place : Place) :
      draft.give place (.node (plainHead assignment.line.2 mark')) assignment.name =
        .ok (assignment.note draft) :=
    give_value assignment place
  simp only [readEntries, hname, hvalue]

/-- Lines that give different settings are read one after another. -/
theorem readEntries_lines {given : List Assignment} {heads : List Head}
    (hheads : Lists (given.map Assignment.line) heads)
    (hdistinct : (given.map Assignment.name).Nodup)
    (hblank : ∀ assignment ∈ given, draft.has assignment.name = false) (mapping : Mark)
    (rest : List Entry) :
    readEntries mapping (heads.map Entry.node ++ rest) draft =
      readEntries mapping rest (noted draft given) := by
  induction given generalizing draft heads with
  | nil =>
      cases hheads
      rfl
  | cons assignment others ih =>
      obtain _ | ⟨_, mark, mark', hothers⟩ := hheads
      rw [List.map_cons, List.nodup_cons] at hdistinct
      obtain ⟨hfresh, hapart⟩ := hdistinct
      have hstill : ∀ other ∈ others, (assignment.note draft).has other.name = false := by
        intro other hother
        have hne : assignment.name ≠ other.name := by
          intro hsame
          exact hfresh (hsame ▸ List.mem_map_of_mem hother)
        simp [has_note, hblank other (List.mem_cons_of_mem _ hother), hne]
      simp only [List.map_cons, List.cons_append]
      rw [readEntries_line assignment (hblank assignment List.mem_cons_self)]
      exact ih hothers hapart hstill

/-! ## Texts of settings -/

/-- A text that gives some settings, each on a line of its own. The last line may lack its
line feed. -/
def Gives (text : String) (given : List Assignment) : Prop :=
  text = textOf given ∨ text ++ "\n" = textOf given

/-- A text that is not read, whatever the reader explains. -/
def Refused (result : Except Failure Settings) : Prop :=
  ∃ problem, result = .error (.config problem)

variable {given : List Assignment} {text : String}

theorem Gives.consists (hgives : Gives text given) :
    Consists (given.map Assignment.line) text.toList := by
  rcases hgives with rfl | hbroken
  · exact .ended (toList_textOf given)
  · refine .broken ?_
    rw [← toList_textOf, ← hbroken, String.toList_append]
    rfl

theorem Gives.eq_empty (hgives : Gives text []) : text = "" := by
  rcases hgives with rfl | hbroken
  · rfl
  · have hlength := congrArg String.length hbroken
    simp [textOf] at hlength

theorem blank_has (name : Name) : Draft.blank.has name = false := by
  cases name <;> rfl

theorem not_blank_of_colon (hcolon : ':' ∈ text.toList) :
    text.toList.all Text.isBlank = false := by
  rw [List.all_eq_false]
  exact ⟨':', hcolon, by decide⟩

theorem colon_mem_of_consists {lines : List (String × String)} {chars : List Char}
    (hsome : lines ≠ []) (hchars : Consists lines chars) : ':' ∈ chars := by
  have hcolon : ':' ∈ linesText lines := by
    obtain ⟨line, rest, rfl⟩ := List.exists_cons_of_ne_nil hsome
    simp [linesText]
  cases hchars with
  | ended htext => rwa [htext]
  | broken htext =>
      rw [← htext, List.mem_append] at hcolon
      exact hcolon.resolve_right (by decide)

section

variable [Reader] [LawfulReader]

/-- A text of lines is read entry by entry. -/
theorem parse_lines {lines : List (String × String)} (hlines : ∀ line ∈ lines, IsLine line)
    (hsome : lines ≠ []) (htext : Consists lines text.toList) :
    ∃ mapping heads, Lists lines heads ∧
      parse text =
        (readEntries mapping (heads.map Entry.node) .blank).map Draft.complete := by
  obtain ⟨mapping, heads, hheads, houtline⟩ := LawfulReader.outline_lines hlines hsome htext
  refine ⟨mapping, heads, hheads, ?_⟩
  have hblank := not_blank_of_colon (colon_mem_of_consists hsome htext)
  have hmapping :
      readOutline ((mappingHead mapping :: heads).map Entry.node) =
        readEntries mapping (heads.map Entry.node) .blank := rfl
  simp only [parse, hblank, Bool.false_eq_true, if_false, houtline, ofOutline, hmapping]
  cases readEntries mapping (heads.map Entry.node) .blank <;> rfl

/-- Lines that give different settings are read as the defaults overwritten by them. -/
theorem parse_gives (hgives : Gives text given) (hdistinct : (given.map Assignment.name).Nodup) :
    parse text = .ok (overwritten given) := by
  by_cases hnone : given = []
  · subst hnone
    rw [hgives.eq_empty]
    rfl
  · have hsome : given.map Assignment.line ≠ [] := by simpa using hnone
    have hblank : ∀ assignment ∈ given, Draft.blank.has assignment.name = false :=
      fun assignment _ => blank_has assignment.name
    obtain ⟨mapping, heads, hheads, hparse⟩ := parse_lines isLine_of_mem hsome hgives.consists
    have hread := readEntries_lines hheads hdistinct hblank mapping []
    rw [List.append_nil, readEntries] at hread
    rw [hparse, hread]
    exact congrArg Except.ok (complete_noted given .blank)

omit [LawfulReader] in
theorem ofText_of_parse {settings : Settings} (hparse : parse text = .ok settings) :
    ofText text = settings.checked := by
  simp [ofText, hparse]

omit [LawfulReader] in
theorem refused_of_parse {problem : Problem} (hparse : parse text = .error problem) :
    Refused (ofText text) := by
  simp [ofText, hparse, Refused]

end

/-! ## Texts that are refused -/

/-- A key that cannot be read next: it is no setting's, or its setting has been given. -/
def Draft.Refuses (draft : Draft) (key : String) : Prop :=
  key ∉ fieldNames ∨ ∃ name : Name, name.label = key ∧ draft.has name = true

theorem readName_refused (mapping : Mark) {key : String} (hkey : draft.Refuses key) (mark : Mark) :
    ∃ problem, readName mapping draft (.node (plainHead key mark)) = .error problem := by
  rcases hkey with hunknown | ⟨name, rfl, hgiven⟩
  · have hlookup : Name.all.lookup key = none := by
      rw [List.lookup_eq_none_iff]
      intro entry hentry
      have hne : key ≠ entry.1 := by
        rintro rfl
        exact hunknown (List.mem_map_of_mem hentry)
      simpa using hne
    simp [readName, Entry.head, plainHead, hlookup, refuseWhole]
  · simp [readName, Entry.head, plainHead, name.lookup_label, hgiven, refuseWhole]

theorem label_of_lookup {key : String} {name : Name} (hlookup : Name.all.lookup key = some name) :
    name.label = key := by
  obtain ⟨front, rest, hall, -⟩ := List.lookup_eq_some_iff.mp hlookup
  have hmem : (key, name) ∈ Name.all := by simp [hall]
  simp only [Name.all, List.mem_cons, Prod.mk.injEq, List.not_mem_nil, or_false] at hmem
  rcases hmem with ⟨rfl, rfl⟩ | ⟨rfl, rfl⟩ | ⟨rfl, rfl⟩ | ⟨rfl, rfl⟩ | ⟨rfl, rfl⟩ <;> rfl

theorem label_of_readName {key : String} {name : Name}
    (hname : readName mapping draft (.node (plainHead key mark)) = .ok name) :
    name.label = key := by
  simp only [readName, Entry.head, plainHead] at hname
  cases hlookup : Name.all.lookup key with
  | none => simp [hlookup, refuseWhole] at hname
  | some found =>
      have hlabel := label_of_lookup hlookup
      cases hgiven : draft.has found with
      | true => simp [hlookup, hgiven, refuseWhole] at hname
      | false =>
          simp only [hlookup, hgiven, Bool.false_eq_true, if_false, Except.ok.injEq] at hname
          rwa [← hname]

theorem has_of_give {draft' : Draft} {place : Place} {entry : Entry} {name : Name}
    (hgive : draft.give place entry name = .ok draft') (other : Name) :
    draft'.has other = (draft.has other || decide (name = other)) := by
  cases name <;> simp only [Draft.give, Except.map] at hgive <;> split at hgive <;>
    cases hgive <;> cases other <;> simp [Draft.has]

theorem readEntries_of_name {key : Entry} {problem : Problem}
    (hname : readName mapping draft key = .error problem) (rest : List Entry) :
    readEntries mapping (key :: rest) draft = .error problem := by
  simp [readEntries, hname]

/-- Lines in which a key cannot be read: it is refused from the start, or it is repeated. -/
def Draft.Spoiled (draft : Draft) (lines : List (String × String)) : Prop :=
  ¬(lines.map Prod.fst).Nodup ∨ ∃ line ∈ lines, draft.Refuses line.1

/-- When the first line has been read, what spoils the lines is among the others. -/
theorem Draft.Spoiled.others {line : String × String} {others : List (String × String)}
    {draft' : Draft} {name : Name} (hspoiled : draft.Spoiled (line :: others))
    (hfirst : ¬draft.Refuses line.1) (hlabel : name.label = line.1)
    (hnow : ∀ other, draft.has other = true ∨ name = other → draft'.has other = true) :
    draft'.Spoiled others := by
  rcases hspoiled with hrepeat | ⟨bad, hbad, hrefuses⟩
  · rw [List.map_cons, List.nodup_cons, Classical.not_and_iff_not_or_not,
      Classical.not_not] at hrepeat
    rcases hrepeat with hagain | hothers
    · -- The first key stands there again, and from now on it is refused.
      obtain ⟨other, hother, hsame⟩ := List.mem_map.mp hagain
      have hhas : draft'.has name = true := hnow name (Or.inr rfl)
      exact Or.inr ⟨other, hother, Or.inr ⟨name, hlabel.trans hsame.symm, hhas⟩⟩
    · exact Or.inl hothers
  · rcases List.mem_cons.mp hbad with rfl | hother
    · exact absurd hrefuses hfirst
    · refine Or.inr ⟨bad, hother, hrefuses.imp_right ?_⟩
      rintro ⟨known, hknown, hhas⟩
      exact ⟨known, hknown, hnow known (Or.inl hhas)⟩

theorem readEntries_spoiled {lines : List (String × String)} {heads : List Head}
    (hheads : Lists lines heads) (hspoiled : draft.Spoiled lines) (mapping : Mark) :
    ∃ problem, readEntries mapping (heads.map Entry.node) draft = .error problem := by
  -- What spoils the lines stays in front, while the draft takes in what has been read.
  induction hheads generalizing draft with
  | nil => simp [Draft.Spoiled] at hspoiled
  | @cons others heads line mark mark' _ ih =>
      simp only [List.map_cons]
      cases hname : readName mapping draft (.node (plainHead line.1 mark)) with
      | error problem => exact ⟨problem, readEntries_of_name hname _⟩
      | ok name =>
          have hfirst : ¬draft.Refuses line.1 := by
            intro hrefuses
            obtain ⟨problem, hrefused⟩ := readName_refused mapping hrefuses mark
            rw [hname] at hrefused
            cases hrefused
          simp only [readEntries, hname]
          cases hgive : draft.give ⟨(Entry.node (plainHead line.1 mark)).keyName, mapping⟩
              (.node (plainHead line.2 mark')) name with
          | error problem => exact ⟨problem, rfl⟩
          | ok draft' =>
              have hnow (other : Name) (hother : draft.has other = true ∨ name = other) :
                  draft'.has other = true := by
                simpa [has_of_give hgive] using hother
              exact ih (hspoiled.others hfirst (label_of_readName hname) hnow)

/-- A text of lines is refused if one of its keys is no setting's or stands there twice. -/
theorem refused_lines [Reader] [LawfulReader] {lines : List (String × String)}
    (hlines : ∀ line ∈ lines, IsLine line) (htext : Consists lines text.toList)
    (hspoiled : ¬(lines.map Prod.fst).Nodup ∨ ∃ line ∈ lines, line.1 ∉ fieldNames) :
    Refused (ofText text) := by
  have hsome : lines ≠ [] := by
    rintro rfl
    simp at hspoiled
  have hblank : Draft.blank.Spoiled lines :=
    hspoiled.imp_right fun ⟨line, hline, hunknown⟩ => ⟨line, hline, Or.inl hunknown⟩
  obtain ⟨mapping, heads, hheads, hparse⟩ := parse_lines hlines hsome htext
  obtain ⟨problem, hread⟩ := readEntries_spoiled hheads hblank mapping
  rw [hread] at hparse
  exact refused_of_parse hparse

theorem ofOutline_error {outline : Outline} {problem : Problem}
    (hread : readOutline outline.entries = .error problem) :
    ofOutline outline = .error problem := by
  simp [ofOutline, hread]

theorem ofOutline_fault {outline : Outline} {fault : Fault} (hfault : outline.fault = some fault) :
    ∃ problem, ofOutline outline = .error problem := by
  simp only [ofOutline, hfault]
  cases readOutline outline.entries with
  | error problem => exact ⟨problem, rfl⟩
  | ok draft => exact ⟨.fault fault, rfl⟩

theorem toList_line (given : List Assignment) (key rest : String) :
    (textOf given ++ key ++ ": " ++ rest).toList =
      linesText (given.map Assignment.line) ++ (key.toList ++ ':' :: ' ' :: rest.toList) := by
  simp [toList_textOf]

/-- The entries of lines that give different settings, with a key behind them that cannot be
read. -/
theorem readOutline_key {key : String} {heads : List Head}
    (hheads : Lists (given.map Assignment.line) heads)
    (hdistinct : (given.map Assignment.name).Nodup)
    (hkey : key ∉ fieldNames ∨ key ∈ given.map fun assignment => assignment.line.1)
    (mapping mark : Mark) (more : List Entry) :
    ∃ problem, readOutline
      ((mappingHead mapping :: heads ++ [plainHead key mark]).map Entry.node ++ more) =
        .error problem := by
  have hblank : ∀ assignment ∈ given, Draft.blank.has assignment.name = false :=
    fun assignment _ => blank_has assignment.name
  have hrefuses : (noted .blank given).Refuses key := by
    refine hkey.imp_right fun hmem => ?_
    obtain ⟨assignment, hassignment, rfl⟩ := List.mem_map.mp hmem
    refine ⟨assignment.name, rfl, ?_⟩
    rw [has_noted]
    exact Or.inr (List.mem_map_of_mem hassignment)
  obtain ⟨problem, hname⟩ := readName_refused mapping hrefuses mark
  rw [List.map_append, List.append_assoc]
  exact ⟨problem, (readEntries_lines hheads hdistinct hblank mapping _).trans
    (readEntries_of_name hname more)⟩

/-- Behind lines that give different settings, a key that is no setting's or has been given
already spoils the text, whatever it goes on with. -/
theorem parse_key [Reader] [LawfulReader] (hdistinct : (given.map Assignment.name).Nodup)
    {key rest : String} (hword : IsWord key.toList)
    (hkey : key ∉ fieldNames ∨ key ∈ given.map fun assignment => assignment.line.1)
    (hallowed : rest.toList.all isAllowed = true) :
    ∃ problem, parse (textOf given ++ key ++ ": " ++ rest) = .error problem := by
  have htext := toList_line given key rest
  have hspace : (' ' :: rest.toList).all isAllowed = true := by
    rw [List.all_cons, hallowed]
    decide
  have hblank : (textOf given ++ key ++ ": " ++ rest).toList.all Text.isBlank = false := by
    apply not_blank_of_colon
    rw [htext]
    simp
  rw [parse, hblank, if_neg Bool.false_ne_true]
  rcases LawfulReader.outline_key isLine_of_mem hword rfl hspace htext with
    ⟨fault, hfault⟩ | ⟨mapping, heads, mark, more, hheads, hentries⟩
  · exact ofOutline_fault hfault
  · obtain ⟨problem, hread⟩ := readOutline_key hheads hdistinct hkey mapping mark more
    refine ⟨problem, ofOutline_error ?_⟩
    rw [hentries, String.ofList_toList]
    exact hread

/-! ## Round trip -/

theorem ne_zero_of_one_le {size : UInt64} (hsize : 1 ≤ size) : size ≠ 0 := by
  rintro rfl
  exact absurd hsize (by decide)

theorem checked_of_validate {settings : Settings} (hvalid : settings.validate = .ok ()) :
    settings.checked = .ok settings := by
  simp only [validate] at hvalid
  split at hvalid
  next => cases hvalid
  next hnone => simp [checked, hnone]

theorem checked_refused {settings : Settings} (hinvalid : settings.validate ≠ .ok ()) :
    Refused settings.checked := by
  simp only [validate] at hinvalid
  split at hinvalid
  next problem hsome => exact ⟨problem, by simp [checked, hsome]⟩
  next => exact absurd rfl hinvalid

theorem load_toUTF8 [Reader] (text : String) : load (.ok text.toUTF8) = ofText text := by
  have hvalid : text.toUTF8.IsValidUTF8 := text.isValidUTF8
  simp only [load, String.fromUTF8?, hvalid, dif_pos]
  rfl

theorem ofText_toText [Reader] [LawfulReader] (settings : Settings) :
    ofText settings.toText = settings.checked := by
  have hgives : Gives settings.toText (Assignment.all settings) :=
    Or.inl (textOf_all settings).symm
  have hparse := parse_gives hgives (nodup_all settings)
  rw [overwritten_all] at hparse
  exact ofText_of_parse hparse

end Retention.Settings
