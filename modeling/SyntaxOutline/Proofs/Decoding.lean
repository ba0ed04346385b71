import SyntaxOutline.Proofs.History
import SyntaxOutline.Proofs.MachineLines
import SyntaxOutline.Proofs.Measures
import SyntaxOutline.Proofs.ReadBack

/-!
# What a line says of its node

A line says all there is to know of its node, apart from its place in the
tree: the number, the depth, the kind with its spelling and its address, the
number of what decorates it, and the label. Number, name and depth are read
off as they are in any line (`readLine_text`). What follows the name is up to
four **segments**, each with an opening of its own and each left out if there
is nothing to say.

A spelling or a label may be any text, so in general it can pass for the
segments that come after it. It cannot if it is a **phrase**, a text in which
no two blanks stand next to each other: all openings but the first begin with
two blanks and a letter, so the phrase ends where the next segment begins. A
single blank at the end of a phrase does no harm, since three blanks are no
opening. Which segment it is that begins there can be told from the letter.
So segments are taken off one by one (`segment_append_inj`), and a line of
phrases has been taken apart when none is left (`Line.eq_of_text_eq`).

The depth that a line says is how far it is set off. It is the depth that was
asked for, unless that is so great that a calculation wraps.
-/

namespace SyntaxOutline

/-! ## Phrases -/

/-- Whether two blanks nowhere stand next to each other in a text. -/
def IsPhrase (text : String) : Prop :=
  ¬ [' ', ' '] <:+: text.toList

instance (text : String) : Decidable (IsPhrase text) :=
  inferInstanceAs (Decidable (¬ _))

theorem isPhrase_repr (number : Nat) : IsPhrase number.repr := by
  intro h
  have hblank : ' ' ∈ number.repr.toList := h.subset List.mem_cons_self
  cases isDigit_of_mem_repr hblank

/-- The digits of a number tell the number. -/
theorem repr_injective : Function.Injective Nat.repr := by
  intro number other h
  rw [← Nat.ofDigitChars_ten_toDigits (n := number), ← Nat.toList_repr, h, Nat.toList_repr,
    Nat.ofDigitChars_ten_toDigits]

/-- Whether a text can stand after a phrase: there is nothing of it, or it begins with two blanks
and one of the given letters. -/
def Opens (letters : List Char) (text : String) : Prop :=
  text = "" ∨ ∃ letter ∈ letters, [' ', ' ', letter] <+: text.toList

theorem opens_empty (letters : List Char) : Opens letters "" := Or.inl rfl

section Phrases

variable {letters : List Char} {first second rest rest' : String}

/-- What stands after a phrase has nothing in common with the end of a longer one. -/
theorem Opens.overlap_eq_nil (hletters : ' ' ∉ letters) (hrest : Opens letters rest)
    (hrest' : Opens letters rest') {front middle : List Char} (hphrase : IsPhrase second)
    (hlonger : second.toList = front ++ middle) (h : rest.toList = middle ++ rest'.toList) :
    middle = [] := by
  obtain rfl | ⟨letter, hletter, hopening⟩ := hrest
  · exact (List.append_eq_nil_iff.1 h.symm).1
  rw [h] at hopening
  match middle with
  | [] => rfl
  | [c] =>
    -- what stands after the longer phrase would begin with one blank only
    have hone : [' ', letter] <+: rest'.toList := (List.cons_prefix_cons.1 hopening).2
    obtain rfl | ⟨other, -, hopening'⟩ := hrest'
    · cases List.prefix_nil.1 hone
    · have hsame : [' ', letter] <+: [' ', ' ', other] :=
        List.prefix_of_prefix_length_le hone hopening' (Nat.le_succ 2)
      have hblank : letter = ' ' :=
        (List.cons_prefix_cons.1 (List.cons_prefix_cons.1 hsame).2).1
      rw [hblank] at hletter
      exact absurd hletter hletters
  | c :: d :: others =>
    -- the longer phrase would have two blanks in it
    obtain ⟨hc, hnext⟩ := List.cons_prefix_cons.1 hopening
    obtain ⟨hd, -⟩ := List.cons_prefix_cons.1 hnext
    rw [← hc, ← hd] at hlonger
    refine absurd ?_ hphrase
    rw [hlonger]
    exact ⟨front, others, List.append_assoc front [' ', ' '] others⟩

/-- **A phrase ends where what follows it begins.** -/
theorem IsPhrase.append_inj (hfirst : IsPhrase first) (hsecond : IsPhrase second)
    (hletters : ' ' ∉ letters) (hrest : Opens letters rest) (hrest' : Opens letters rest')
    (h : first ++ rest = second ++ rest') : first = second ∧ rest = rest' := by
  have hlists : first.toList ++ rest.toList = second.toList ++ rest'.toList := by
    rw [← String.toList_append, h, String.toList_append]
  have hsame : first = second := by
    obtain ⟨middle, hlonger, hover⟩ | ⟨middle, hlonger, hover⟩ :=
      List.append_eq_append_iff.1 hlists
    · have hnil := hrest.overlap_eq_nil hletters hrest' hsecond hlonger hover
      rw [hnil, List.append_nil] at hlonger
      exact (String.toList_inj.1 hlonger).symm
    · have hnil := hrest'.overlap_eq_nil hletters hrest hfirst hlonger hover
      rw [hnil, List.append_nil] at hlonger
      exact String.toList_inj.1 hlonger
  rw [hsame] at h
  exact ⟨hsame, (String.append_right_inj second).1 h⟩

/-! ## Segments -/

/-- **A segment**: what is written of an item after its opening, or nothing if there is no item. -/
def segment {α : Type} (opening : String) (write : α → String) (item : Option α) : String :=
  item.elim "" (fun value => opening ++ write value)

variable {α : Type} {opening : String} {write : α → String}

/-- What begins with a segment begins with its letter, or as what follows the segment does. -/
theorem Opens.segment_append {letter : Char} (hopening : [' ', ' ', letter] <+: opening.toList)
    (hrest : Opens letters rest) (item : Option α) :
    Opens (letter :: letters) (segment opening write item ++ rest) := by
  cases item with
  | none =>
    rw [segment, Option.elim_none, String.empty_append]
    exact hrest.imp_right fun ⟨later, hlater, h⟩ => ⟨later, List.mem_cons_of_mem letter hlater, h⟩
  | some value =>
    refine Or.inr ⟨letter, List.mem_cons_self, ?_⟩
    rw [segment, Option.elim_some, String.append_assoc, String.toList_append]
    exact hopening.trans (List.prefix_append _ _)

/-- **A segment is told from what follows it**, whether it is there, what it is of and where it
ends, if a phrase is written of each item and nothing that can follow has the same opening. -/
theorem segment_append_inj (hopening : ∀ text, ¬ Opens letters (opening ++ text))
    (hwrite : Function.Injective write) (hletters : ' ' ∉ letters) (hrest : Opens letters rest)
    (hrest' : Opens letters rest') {item item' : Option α}
    (hitem : ∀ value ∈ item, IsPhrase (write value))
    (hitem' : ∀ value ∈ item', IsPhrase (write value))
    (h : segment opening write item ++ rest = segment opening write item' ++ rest') :
    item = item' ∧ rest = rest' := by
  unfold segment at h
  match item, item' with
  | none, none =>
    rw [Option.elim_none, String.empty_append, String.empty_append] at h
    exact ⟨rfl, h⟩
  | none, some value =>
    rw [Option.elim_none, Option.elim_some, String.empty_append, String.append_assoc] at h
    exact absurd (h ▸ hrest) (hopening _)
  | some value, none =>
    rw [Option.elim_none, Option.elim_some, String.empty_append, String.append_assoc] at h
    exact absurd (h ▸ hrest') (hopening _)
  | some value, some value' =>
    rw [Option.elim_some, Option.elim_some, String.append_assoc, String.append_assoc] at h
    have htail := (String.append_right_inj opening).1 h
    obtain ⟨hsame, hrests⟩ :=
      (hitem value rfl).append_inj (hitem' value' rfl) hletters hrest hrest' htail
    exact ⟨congrArg some (hwrite hsame), hrests⟩

end Phrases

/-! ## Lines -/

theorem Symbol.text_injective : Function.Injective Symbol.text := by
  rintro ⟨text⟩ ⟨text'⟩ rfl
  rfl

namespace Kind

theorem baseLabel_eq_segment (kind : Kind) :
    kind.baseLabel = kind.name ++ segment ": " Symbol.text kind.payload := by
  unfold baseLabel
  cases kind.payload with
  | none => exact String.append_empty.symm
  | some symbol => exact String.append_assoc

/-- The kind of a name and a spelling that has no frame offset. -/
def ofParts? (name : String) (spelling : Option Symbol) : Option Kind :=
  spelling.elim (plain? name) (spelled? name)

theorem ofParts?_eq (kind : Kind) :
    ofParts? kind.name kind.payload = some (kind.withFrameOffset none) := by
  cases kind <;> rfl

/-- **A kind is its name, its spelling and its frame offset.** -/
theorem eq_of_parts {kind other : Kind} (hname : kind.name = other.name)
    (hpayload : kind.payload = other.payload) (hoffset : kind.frameOffset = other.frameOffset) :
    kind = other := by
  have hbare : kind.withFrameOffset none = other.withFrameOffset none := by
    rw [← Option.some_inj, ← ofParts?_eq, ← ofParts?_eq, hname, hpayload]
  calc kind
      = (kind.withFrameOffset none).withFrameOffset kind.frameOffset := by simp
    _ = (other.withFrameOffset none).withFrameOffset other.frameOffset := by rw [hbare, hoffset]
    _ = other := by simp

end Kind

namespace Line

section Parts

variable {rest rest' : String}

theorem decorationPart_eq_segment (decoration : Option Nat) :
    decorationPart decoration = segment "  Dec: " Nat.repr decoration := by
  cases decoration <;> rfl

theorem labelPart_eq_segment (label : String) :
    labelPart label = segment "  Label: " id (if label = "" then none else some label) := by
  unfold labelPart
  split <;> rfl

theorem addressPart_eq_segment (address : Option Nat) :
    addressPart address = segment "  Addr: " Nat.repr address := by
  cases address <;> rfl

theorem opens_addressPart (address : Option Nat) : Opens ['A'] (addressPart address) := by
  rw [addressPart_eq_segment, ← String.append_empty (s := segment _ _ _)]
  exact (opens_empty []).segment_append (by decide) address

theorem opens_labelPart_append (label : String) (hrest : Opens ['A'] rest) :
    Opens ['L', 'A'] (labelPart label ++ rest) := by
  rw [labelPart_eq_segment]
  exact hrest.segment_append (by decide) _

theorem opens_decorationPart_append (decoration : Option Nat) (hrest : Opens ['L', 'A'] rest) :
    Opens ['D', 'L', 'A'] (decorationPart decoration ++ rest) := by
  rw [decorationPart_eq_segment]
  exact hrest.segment_append (by decide) decoration

theorem decorationPart_append_inj {decoration decoration' : Option Nat}
    (hrest : Opens ['L', 'A'] rest) (hrest' : Opens ['L', 'A'] rest')
    (h : decorationPart decoration ++ rest = decorationPart decoration' ++ rest') :
    decoration = decoration' ∧ rest = rest' := by
  rw [decorationPart_eq_segment, decorationPart_eq_segment] at h
  exact segment_append_inj (by simp [Opens]) repr_injective (by decide) hrest hrest'
    (fun number _ => isPhrase_repr number) (fun number _ => isPhrase_repr number) h

theorem labelPart_append_inj {label label' : String} (hlabel : IsPhrase label)
    (hlabel' : IsPhrase label') (hrest : Opens ['A'] rest) (hrest' : Opens ['A'] rest')
    (h : labelPart label ++ rest = labelPart label' ++ rest') :
    label = label' ∧ rest = rest' := by
  rw [labelPart_eq_segment, labelPart_eq_segment] at h
  obtain ⟨hsame, hrests⟩ := segment_append_inj (by simp [Opens]) Function.injective_id (by decide)
    hrest hrest' (by simp [hlabel]) (by simp [hlabel']) h
  refine ⟨?_, hrests⟩
  split_ifs at hsame with hempty hempty'
  · exact hempty.trans hempty'.symm
  · exact Option.some.inj hsame

theorem addressPart_inj {address address' : Option Nat}
    (h : addressPart address = addressPart address') : address = address' := by
  rw [addressPart_eq_segment, addressPart_eq_segment, ← String.append_left_inj ""] at h
  exact (segment_append_inj (by simp [Opens]) repr_injective (by decide) (opens_empty [])
    (opens_empty []) (fun number _ => isPhrase_repr number) (fun number _ => isPhrase_repr number)
    h).1

end Parts

/-- What stands in a line after the name of the kind, which has the given spelling. -/
def details (line : Line) (spelling : Option Symbol) : String :=
  segment ": " Symbol.text spelling ++ (decorationPart line.decoration
    ++ (labelPart line.label ++ addressPart line.address))

/-- **What a line says in detail can be told from it**, if spelling and label are phrases. -/
theorem details_inj {line other : Line} {spelling spelling' : Option Symbol}
    (hspelling : ∀ symbol ∈ spelling, IsPhrase symbol.text)
    (hspelling' : ∀ symbol ∈ spelling', IsPhrase symbol.text)
    (hlabel : IsPhrase line.label) (hlabel' : IsPhrase other.label)
    (h : line.details spelling = other.details spelling') :
    spelling = spelling' ∧ line.decoration = other.decoration ∧ line.label = other.label ∧
      line.address = other.address := by
  have hlater (line : Line) : Opens ['L', 'A'] (labelPart line.label ++ addressPart line.address) :=
    opens_labelPart_append _ (opens_addressPart _)
  -- the segments are taken off in their order
  obtain ⟨hsame, h⟩ := segment_append_inj (by simp [Opens]) Symbol.text_injective (by decide)
    (opens_decorationPart_append _ (hlater line)) (opens_decorationPart_append _ (hlater other))
    hspelling hspelling' h
  obtain ⟨hdecoration, h⟩ := decorationPart_append_inj (hlater line) (hlater other) h
  obtain ⟨hlabels, h⟩ :=
    labelPart_append_inj hlabel hlabel' (opens_addressPart _) (opens_addressPart _) h
  exact ⟨hsame, hdecoration, hlabels, addressPart_inj h⟩

/-- A line under a base label is a front, which depends on number, depth and name alone, and the
details. -/
theorem toList_text_eq {line : Line} {kind : Kind} (h : line.heading = kind.baseLabel) :
    line.text.toList
      = (line.number.repr.toList ++ ':' ::
          List.replicate ((3 - line.number.repr.length) + 2 * line.depth) ' ') ++
        (kind.name.toList ++ (line.details kind.payload).toList) := by
  rw [line.toList_text, h, kind.baseLabel_eq_segment, String.append_assoc, String.toList_append,
    List.append_assoc, List.cons_append]
  rfl

/-- **A line of phrases says all its parts.** -/
theorem eq_of_text_eq {line other : Line} {kind kind' : Kind}
    (hheading : line.heading = kind.baseLabel) (hheading' : other.heading = kind'.baseLabel)
    (hspelling : ∀ symbol ∈ kind.payload, IsPhrase symbol.text)
    (hspelling' : ∀ symbol ∈ kind'.payload, IsPhrase symbol.text)
    (hlabel : IsPhrase line.label) (hlabel' : IsPhrase other.label)
    (h : line.text = other.text) :
    line = other ∧ kind.name = kind'.name ∧ kind.payload = kind'.payload := by
  have hread : ((line.number, kind.name), line.depth)
      = ((other.number, kind'.name), other.depth) := by
    rw [← readLine_text hheading, h, readLine_text hheading']
  obtain ⟨hcaption, hdepth⟩ := Prod.mk.inj hread
  obtain ⟨hnumber, hname⟩ := Prod.mk.inj hcaption
  have htext := congrArg String.toList h
  rw [toList_text_eq hheading, toList_text_eq hheading', hnumber, hname, hdepth] at htext
  have hdetails : line.details kind.payload = other.details kind'.payload :=
    String.toList_inj.1 (List.append_cancel_left (List.append_cancel_left htext))
  obtain ⟨hpayload, hdecoration, hlabels, haddress⟩ :=
    details_inj hspelling hspelling' hlabel hlabel' hdetails
  refine ⟨?_, hname, hpayload⟩
  have hheadings : line.heading = other.heading := by
    rw [hheading, hheading', kind.baseLabel_eq_segment, kind'.baseLabel_eq_segment, hname, hpayload]
  cases line
  cases other
  simp only [mk.injEq]
  exact ⟨hnumber, hdepth, hheadings, hdecoration, hlabels, haddress⟩

end Line

/-! ## Nodes -/

/-- **The text of a node's line** under its base label, set off by a depth. -/
def Machine.lineText (machine : Machine) (arena : Arena) (node : Handle) (depth : Nat) :
    Except Stop String := do
  let heading ← Stop.ofAnswer (arena.baseLabel node)
  machine.formatLine arena node heading depth

namespace Arena

variable {first second : Arena} {node other : Handle}

/-- Whether the label and the spelling of a node are phrases. -/
def IsPhrased (arena : Arena) (handle : Handle) : Prop :=
  ∀ node ∈ arena.node? handle,
    IsPhrase node.label ∧ ∀ symbol ∈ node.kind.payload, IsPhrase symbol.text

instance (arena : Arena) (handle : Handle) : Decidable (arena.IsPhrased handle) :=
  inferInstanceAs (Decidable (∀ _ ∈ _, _))

/-- **A line that a machine has made** is that of its node, as far as it is set off there. -/
theorem IsForest.text_of_lineText {arena : Arena} (hforest : arena.IsForest) (h : node ∈ arena)
    {machine : Machine} {depth : Nat} {text : String}
    (htext : machine.lineText arena node depth = .ok text) :
    (arena.lineOf node (arena.headingOf node) (machine.levels depth)).text = text := by
  rw [Machine.lineText, baseLabel_eq_ok h] at htext
  change machine.formatLine arena node (arena.headingOf node) depth = .ok text at htext
  rw [hforest.formatLine_eq machine h] at htext
  exact Machine.eq_of_hold_eq_ok htext

theorem number_of_node? {arena : Arena} {entry : Node} (h : arena.node? node = some entry) :
    arena.number node = .ok entry.number := by
  rw [number, node_eq_ok_iff.2 h]
  rfl

theorem label_of_node? {arena : Arena} {entry : Node} (h : arena.node? node = some entry) :
    arena.label node = .ok entry.label := by
  rw [label, node_eq_ok_iff.2 h]
  rfl

/-- Nodes that show the same number for their decoration are decorated alike. -/
theorem decorations_of_map_numberOf_eq (hforest : first.IsForest) (hforest' : second.IsForest)
    (hnode : node ∈ first) (hother : other ∈ second)
    (h : (first.decoration? node).map first.numberOf
      = (second.decoration? other).map second.numberOf) :
    (first.decoration node = .ok none ∧ second.decoration other = .ok none) ∨
      ∃ target target' number, first.decoration node = .ok (some target) ∧
        second.decoration other = .ok (some target') ∧
        first.number target = .ok number ∧ second.number target' = .ok number := by
  rw [decoration_eq_ok hnode, decoration_eq_ok hother]
  cases htarget : first.decoration? node with
  | none =>
    rw [htarget] at h
    rw [Option.map_eq_none_iff.1 h.symm]
    exact Or.inl ⟨rfl, rfl⟩
  | some target =>
    rw [htarget] at h
    obtain ⟨target', htarget', hsame⟩ := Option.map_eq_some_iff.1 h.symm
    have hnumber := number_eq_ok (hforest.decoration_mem htarget)
    have hnumber' := number_eq_ok (hforest'.decoration_mem htarget')
    rw [htarget']
    exact Or.inr ⟨target, target', _, rfl, rfl, hnumber, hsame ▸ hnumber'⟩

/-- **The line of a node determines what the node says**, whatever arenas and depths it comes from,
if spelling and label are phrases. Two nodes with the same line have the same number, the same kind
with the same spelling and frame offset, and the same label; they are decorated either both or
neither, and then with nodes of equal number; and their lines are set off by the same depth. Only a
depth that a machine has no room for may wrap to that of the other. -/
theorem line_determines_node (hfirst : first.Reachable) (hsecond : second.Reachable)
    (hnode : node ∈ first) (hother : other ∈ second) (hphrased : first.IsPhrased node)
    (hphrased' : second.IsPhrased other) {machine : Machine} {depth depth' : Nat} {text : String}
    (h : machine.lineText first node depth = .ok text)
    (h' : machine.lineText second other depth' = .ok text) :
    (∃ number, first.number node = .ok number ∧ second.number other = .ok number) ∧
      (∃ kind, first.kind node = .ok kind ∧ second.kind other = .ok kind) ∧
      ((first.decoration node = .ok none ∧ second.decoration other = .ok none) ∨
        ∃ target target' number, first.decoration node = .ok (some target) ∧
          second.decoration other = .ok (some target') ∧
          first.number target = .ok number ∧ second.number target' = .ok number) ∧
      (∃ label, first.label node = .ok label ∧ second.label other = .ok label) ∧
      (machine.checks = true ∨ (depth < machine.room ∧ depth' < machine.room) →
        depth = depth') ∧
      depth % machine.room = depth' % machine.room := by
  have hforest := hfirst.isForest
  have hforest' := hsecond.isForest
  obtain ⟨entry, hentry⟩ := exists_node? hnode
  obtain ⟨entry', hentry'⟩ := exists_node? hother
  obtain ⟨hlabel, hspelling⟩ := hphrased entry hentry
  obtain ⟨hlabel', hspelling'⟩ := hphrased' entry' hentry'
  have htext := (hforest.text_of_lineText hnode h).trans (hforest'.text_of_lineText hother h').symm
  rw [lineOf_of_node? hentry, lineOf_of_node? hentry', headingOf, headingOf, hentry, hentry'] at htext
  obtain ⟨hline, hname, hpayload⟩ :=
    Line.eq_of_text_eq rfl rfl hspelling hspelling' hlabel hlabel' htext
  obtain ⟨hnumber, hlevels, -, hdecoration, hlabels, hoffset⟩ := Line.mk.inj hline
  have hkind : entry.kind = entry'.kind := Kind.eq_of_parts hname hpayload hoffset
  rw [← decoration?_of_node? hentry, ← decoration?_of_node? hentry'] at hdecoration
  refine ⟨⟨entry.number, number_of_node? hentry, ?_⟩, ⟨entry.kind, kind_of_node? hentry, ?_⟩,
    decorations_of_map_numberOf_eq hforest hforest' hnode hother hdecoration,
    ⟨entry.label, label_of_node? hentry, ?_⟩,
    Machine.eq_of_levels_eq hlevels, Machine.mod_eq_of_levels_eq hlevels⟩
  · rw [hnumber]
    exact number_of_node? hentry'
  · rw [hkind]
    exact kind_of_node? hentry'
  · rw [hlabels]
    exact label_of_node? hentry'

/-- An arena in which an identifier is decorated with what stands after it, but not above it. -/
def remote : Arena :=
  (empty 9).applyAll [.add (.ident ⟨"x"⟩ (some 4)), .add .call, .addOver .block [⟨9, 0⟩],
    .decorate ⟨9, 0⟩ ⟨9, 2⟩]

theorem line_determines_node_remote :
    octet.lineText Printer.adorned ⟨3, 0⟩ 1 = .ok "1:    Id: x  Dec: 3  Addr: 4" ∧
      octet.lineText remote ⟨9, 0⟩ 1 = .ok "1:    Id: x  Dec: 3  Addr: 4" ∧
      ∃ kind, Printer.adorned.kind ⟨3, 0⟩ = .ok kind ∧ remote.kind ⟨9, 0⟩ = .ok kind := by
  have hreach : Printer.adorned.Reachable := (Reachable.empty 3).applyAll _
  have hreach' : remote.Reachable := (Reachable.empty 9).applyAll _
  have htext : octet.lineText Printer.adorned ⟨3, 0⟩ 1
      = .ok "1:    Id: x  Dec: 3  Addr: 4" := by rfl
  have htext' : octet.lineText remote ⟨9, 0⟩ 1 = .ok "1:    Id: x  Dec: 3  Addr: 4" := by rfl
  obtain ⟨-, hkind, -⟩ := line_determines_node hreach hreach' (by decide) (by decide)
    (by decide) (by decide) htext htext'
  exact ⟨htext, htext', hkind⟩

/-- A label that is no phrase can pass for the address that the other identifier has. -/
example : octet.lineText disguised ⟨9, 0⟩ 1 = .ok "1:    Id: x  Label: top  Addr: 4" ∧
    octet.lineText addressed ⟨3, 0⟩ 1 = .ok "1:    Id: x  Label: top  Addr: 4" := by
  constructor <;> rfl

end Arena

end SyntaxOutline
