import SyntaxOutline.Journal.Event
import SyntaxOutline.Text.Blank

/-!
# Selections

What is worth telling may depend on where it comes from. A **rule** sets a threshold for the events
whose origin begins in a given way. Of several rules for an event the most specific one counts,
which is the one that asks for the longest beginning, and of equally long ones the last. An event
that there is no rule for is not told. A **selection** has such rules, and it may besides ask for a
text that occurs in the message of every event that is told.

A selection can be spelled in one text. Its rules come first, with commas between them: an origin
and the word of a threshold, joined by an equals sign. With the word alone the rule is for all
events, and with the origin alone it lets all levels through. A slash and the text to be found may
follow. What cannot be read is passed over with a **complaint**; and where no rule is left, errors
are told and nothing else.
-/

namespace SyntaxOutline

/-- The threshold that a word names, in capitals or not. -/
def Threshold.ofAnyWord? (word : String) : Option Threshold :=
  ofWord? word.toLower

/-- **A threshold for the events from some origins.** -/
structure Rule where
  /-- How the origins begin. -/
  beginning : String
  threshold : Threshold
  deriving DecidableEq

/-- The rule that sets a threshold for all events. -/
def Rule.forAll (threshold : Threshold) : Rule := ⟨"", threshold⟩

/-- Whether a rule is for the events from an origin. -/
def Rule.covers (rule : Rule) (origin : String) : Bool :=
  rule.beginning.toList.isPrefixOf origin.toList

/-- **What is told and what is not, by origin, level and message.** -/
structure Selection where
  rules : List Rule
  /-- What occurs in the message of every event that is told. -/
  wanted : String
  deriving DecidableEq

/-- Whether a text occurs in another. -/
def occursIn (wanted : List Char) : List Char → Bool
  | [] => wanted.isEmpty
  | c :: rest => wanted.isPrefixOf (c :: rest) || occursIn wanted rest

namespace Selection

/-- The selection that goes by a threshold alone. -/
def ofThreshold (threshold : Threshold) : Selection := ⟨[.forAll threshold], ""⟩

/-- The threshold for the events from an origin. -/
def threshold (selection : Selection) (origin : String) : Threshold :=
  let better := fun (best rule : Rule) =>
    if rule.covers origin ∧ best.beginning.utf8ByteSize ≤ rule.beginning.utf8ByteSize then rule
    else best
  (selection.rules.foldl better (.forAll .off)).threshold

/-- Whether an event is told. -/
def admits (selection : Selection) (event : Event) : Bool :=
  (selection.threshold event.origin).admits event.level &&
    occursIn selection.wanted.toList event.message.toList

/-- **The events that are told**, in their order. -/
def keep (selection : Selection) (events : List Event) : List Event :=
  events.filter selection.admits

@[simp] theorem threshold_ofThreshold (threshold : Threshold) (origin : String) :
    (ofThreshold threshold).threshold origin = threshold := by
  simp [ofThreshold, Selection.threshold, Rule.forAll, Rule.covers]

theorem occursIn_nil (text : List Char) : occursIn [] text = true := by
  cases text <;> simp [occursIn]

/-- A selection that goes by a threshold tells what the threshold lets through. -/
theorem keep_ofThreshold (threshold : Threshold) (events : List Event) :
    (ofThreshold threshold).keep events = threshold.keep events := by
  refine List.filter_congr fun event _ => ?_
  rw [admits, threshold_ofThreshold]
  simp [ofThreshold, occursIn_nil]

end Selection

/-- **Why a part of a setting is passed over.** -/
inductive Complaint where
  /-- The text is no rule, or no word of a threshold. -/
  | unreadable (text : String)
  /-- The setting has more than one slash, so nothing of it is read. -/
  | manySlashes (setting : String)
  deriving DecidableEq

/-- The line shown for a complaint. -/
def Complaint.message : Complaint → String
  | unreadable text => "warning: invalid logging spec '" ++ text ++ "', ignoring it"
  | manySlashes setting =>
    "warning: invalid logging spec '" ++ setting ++ "', ignoring it (too many '/'s)"

/-- Reads a rule. -/
def Rule.ofText (text : String) : Except Complaint Rule :=
  match text.splitOn "=" with
  | [word] =>
    match Threshold.ofAnyWord? word with
    | some threshold => .ok (.forAll threshold)
    | none => .ok ⟨word, .upTo .trace⟩
  | [beginning, level] =>
    let word := trimBlanks level
    if word = "" then .ok ⟨beginning, .upTo .trace⟩
    else
      match Threshold.ofAnyWord? word with
      | some threshold => .ok ⟨beginning, threshold⟩
      | none => .error (.unreadable word)
  | _ => .error (.unreadable text)

/-- **A selection, and what there was to complain of** in the text it was read from. -/
structure Setting where
  selection : Selection
  complaints : List Complaint

namespace Setting

/-- A setting with nothing to complain of. -/
def ofThreshold (threshold : Threshold) : Setting := ⟨.ofThreshold threshold, []⟩

/-- Reads rules, for a selection that wants the given text. -/
def ofRules (rules wanted : String) : Setting :=
  let parts := ((rules.splitOn ",").map trimBlanks).filter (· ≠ "")
  let read := parts.map Rule.ofText
  let good := read.filterMap Except.toOption
  let bad := read.filterMap fun
    | .ok _ => none
    | .error complaint => some complaint
  ⟨⟨if good.isEmpty then [.forAll (.upTo .error)] else good, wanted⟩, bad⟩

/-- **Reads a setting.** -/
def ofText (text : String) : Setting :=
  match text.splitOn "/" with
  | [rules] => ofRules rules ""
  | [rules, wanted] => ofRules rules wanted
  | _ => ⟨.ofThreshold (.upTo .error), [.manySlashes text]⟩

end Setting

end SyntaxOutline
