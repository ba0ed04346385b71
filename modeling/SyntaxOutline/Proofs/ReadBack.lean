import Mathlib.Data.Set.Function
import SyntaxOutline.Proofs.Printing

/-!
# Reading an outline back

The text of an outline tells what it is the outline of: the numbers, the
kinds, and the way the nodes hang together. To see it, the text is read. It
falls apart at its newlines, if neither a label nor a spelling brings in one
of its own; and of a line can be read (`readLine`) the number, up to the
first character that is no digit, the depth, from the blanks that are there
beyond those of the number field, and the kind, up to the first character
that is no letter. None of it depends on how wide the number is.

What is read of all lines is a walk with its depths, and a walk determines
its tree (`Tree.visits_inj`). So two arenas whose trees have the same outline
have the same tree there, number by number and kind by kind. As a node's
number says where it stands in its arena, the tree of the one becomes the
tree of the other when its handles are handed over to the other arena
(`Arena.map_handOver_tree_eq`).
-/

namespace SyntaxOutline

/-! ## Reading a line -/

section Stretches

variable {α : Type} {p : α → Bool} {front rest : List α}

/-- A stretch with a property ends where the first item without it stands. -/
theorem takeWhile_append_eq_left (hfront : ∀ item ∈ front, p item = true)
    (hrest : ∀ item ∈ rest.head?, p item = false) : (front ++ rest).takeWhile p = front := by
  rw [List.takeWhile_append_of_pos hfront]
  cases rest with
  | nil => rw [List.takeWhile_nil, List.append_nil]
  | cons item others =>
    have hitem : ¬ p item = true := Bool.eq_false_iff.1 (hrest item rfl)
    rw [List.takeWhile_cons_of_neg hitem, List.append_nil]

theorem dropWhile_append_eq_right (hfront : ∀ item ∈ front, p item = true)
    (hrest : ∀ item ∈ rest.head?, p item = false) : (front ++ rest).dropWhile p = rest := by
  have hboth := List.takeWhile_append_dropWhile (p := p) (l := front ++ rest)
  rw [takeWhile_append_eq_left hfront hrest] at hboth
  exact List.append_cancel_left hboth

end Stretches

theorem isDigit_of_mem_repr {c : Char} {number : Nat} (h : c ∈ number.repr.toList) :
    c.isDigit = true := by
  rw [Nat.toList_repr] at h
  exact Nat.isDigit_of_mem_toDigits (by decide) (by decide) h

/-- **What can be read of a line**: the number, the name of the kind, and the depth. -/
def readLine (line : List Char) : (Nat × String) × Nat :=
  let digits := line.takeWhile Char.isDigit
  let text := line.drop (digits.length + 1)
  let blank := text.takeWhile (· == ' ')
  let name := (text.dropWhile (· == ' ')).takeWhile Char.isAlpha
  ((Nat.ofDigitChars 10 digits 0, String.ofList name), (blank.length - (3 - digits.length)) / 2)

/-- A line is read off stretch by stretch. -/
theorem readLine_eq {digits name rest : List Char} (hdigits : ∀ c ∈ digits, c.isDigit = true)
    (hne : name ≠ []) (hletters : ∀ c ∈ name, c.isAlpha = true)
    (hrest : ∀ c ∈ rest.head?, c.isAlpha = false) (count : Nat) :
    readLine (digits ++ ':' :: (List.replicate count ' ' ++ (name ++ rest)))
      = ((Nat.ofDigitChars 10 digits 0, String.ofList name),
          (count - (3 - digits.length)) / 2) := by
  have hnumber : (digits ++ ':' :: (List.replicate count ' ' ++ (name ++ rest))).takeWhile
      Char.isDigit = digits := by
    refine takeWhile_append_eq_left hdigits ?_
    rintro _ ⟨⟩
    rfl
  have hblank : ∀ c ∈ List.replicate count ' ', (c == ' ') = true := fun c hc =>
    beq_iff_eq.2 (List.eq_of_mem_replicate hc)
  have hword : ∀ c ∈ (name ++ rest).head?, (c == ' ') = false := by
    intro c hc
    rw [List.head?_append_of_ne_nil _ hne] at hc
    refine beq_eq_false_iff_ne.2 (fun heq => ?_)
    have hletter := hletters c (List.mem_of_mem_head? hc)
    rw [heq] at hletter
    cases hletter
  unfold readLine
  dsimp only
  rw [hnumber, List.drop_length_add_append, List.drop_succ_cons, List.drop_zero,
    takeWhile_append_eq_left hblank hword, dropWhile_append_eq_right hblank hword,
    takeWhile_append_eq_left hletters hrest, List.length_replicate]

/-- Whether a text does not begin with a letter, so that it ends a word before it. -/
def EndsWord (text : String) : Prop :=
  ∀ c ∈ text.toList.head?, c.isAlpha = false

theorem endsWord_empty : EndsWord "" := nofun

theorem EndsWord.append {first second : String} (hfirst : EndsWord first)
    (hsecond : EndsWord second) : EndsWord (first ++ second) := by
  intro c hc
  rw [String.toList_append, List.head?_append] at hc
  cases hhead : first.toList.head? with
  | none =>
    rw [hhead] at hc
    exact hsecond c hc
  | some d =>
    rw [hhead] at hc
    exact hfirst c (hhead.trans hc)

theorem endsWord_append_of_head? {first : String} {c : Char}
    (hhead : first.toList.head? = some c) (hc : c.isAlpha = false) (second : String) :
    EndsWord (first ++ second) := by
  intro d hd
  rw [String.toList_append, List.head?_append, hhead] at hd
  rw [← Option.some.inj hd]
  exact hc

namespace Line

theorem endsWord_decorationPart (decoration : Option Nat) :
    EndsWord (decorationPart decoration) := by
  cases decoration with
  | none => exact endsWord_empty
  | some number => exact endsWord_append_of_head? (c := ' ') rfl rfl _

theorem endsWord_labelPart (label : String) : EndsWord (labelPart label) := by
  by_cases h : label = ""
  · rw [h]
    exact endsWord_empty
  · rw [labelPart_of_ne h]
    exact endsWord_append_of_head? (c := ' ') rfl rfl _

theorem endsWord_addressPart (address : Option Nat) : EndsWord (addressPart address) := by
  cases address with
  | none => exact endsWord_empty
  | some offset => exact endsWord_append_of_head? (c := ' ') rfl rfl _

end Line

namespace Kind

/-- A kind has a word for its name. -/
theorem name_word (kind : Kind) :
    kind.name.toList ≠ [] ∧ kind.name.toList.all Char.isAlpha = true := by
  cases kind <;> simp only [name] <;> decide

/-- In a base label the name of the kind comes first, and what comes after it ends the word. -/
theorem baseLabel_eq (kind : Kind) :
    ∃ rest, kind.baseLabel = kind.name ++ rest ∧ EndsWord rest := by
  unfold baseLabel
  cases kind.payload with
  | none => exact ⟨"", String.append_empty.symm, endsWord_empty⟩
  | some symbol =>
    exact ⟨": " ++ symbol.text, String.append_assoc,
      endsWord_append_of_head? (c := ':') rfl rfl _⟩

end Kind

/-- The characters of a line: the digits, a colon, the blanks of the number field and of the
indentation, and the rest. -/
theorem Line.toList_text (line : Line) :
    line.text.toList
      = line.number.repr.toList ++ ':' ::
          (List.replicate ((3 - line.number.repr.length) + 2 * line.depth) ' ' ++
            (line.heading ++ (decorationPart line.decoration ++ (labelPart line.label ++
              addressPart line.address))).toList) := by
  unfold text numberField indentation
  simp only [String.toList_append, toList_blanks, List.append_assoc,
    ← List.replicate_append_replicate]
  rfl

/-- **What is read of a line is what the line says**, however wide its number, if its heading is a
base label. -/
theorem readLine_text {line : Line} {kind : Kind} (h : line.heading = kind.baseLabel) :
    readLine line.text.toList = ((line.number, kind.name), line.depth) := by
  obtain ⟨spelling, hlabel, hspelling⟩ := kind.baseLabel_eq
  obtain ⟨hne, hletters⟩ := kind.name_word
  have hdigits : ∀ c ∈ line.number.repr.toList, c.isDigit = true := fun c hc =>
    isDigit_of_mem_repr hc
  have hrest : EndsWord (spelling ++ (Line.decorationPart line.decoration ++
      (Line.labelPart line.label ++ Line.addressPart line.address))) :=
    hspelling.append ((Line.endsWord_decorationPart _).append
      ((Line.endsWord_labelPart _).append (Line.endsWord_addressPart _)))
  have hdepth : (3 - line.number.repr.length + 2 * line.depth
      - (3 - line.number.repr.length)) / 2 = line.depth := by omega
  rw [line.toList_text, h, hlabel, String.append_assoc, String.toList_append,
    readLine_eq hdigits hne (List.all_eq_true.1 hletters) hrest, String.length_toList, hdepth,
    Nat.toList_repr, Nat.ofDigitChars_ten_toDigits, String.ofList_toList]

/-! ## Reading an outline -/

/-- Whether a text stays on one line. -/
def OneLine (text : String) : Prop :=
  '\n' ∉ text.toList

instance (text : String) : Decidable (OneLine text) :=
  inferInstanceAs (Decidable (¬ _))

theorem OneLine.append {first second : String} (hfirst : OneLine first)
    (hsecond : OneLine second) : OneLine (first ++ second) := by
  unfold OneLine
  rw [String.toList_append, List.mem_append]
  exact fun h => h.elim hfirst hsecond

theorem oneLine_empty : OneLine "" := nofun

theorem oneLine_repr (number : Nat) : OneLine number.repr := by
  intro h
  cases isDigit_of_mem_repr h

theorem oneLine_blanks (count : Nat) : OneLine (blanks count) := by
  intro h
  rw [toList_blanks] at h
  cases List.eq_of_mem_replicate h

namespace Line

theorem oneLine_numberField (number : Nat) : OneLine (numberField number) :=
  ((oneLine_repr _).append (by decide)).append (oneLine_blanks _)

theorem oneLine_decorationPart (decoration : Option Nat) :
    OneLine (decorationPart decoration) := by
  cases decoration with
  | none => exact oneLine_empty
  | some number => exact OneLine.append (by decide) (oneLine_repr number)

theorem oneLine_addressPart (address : Option Nat) : OneLine (addressPart address) := by
  cases address with
  | none => exact oneLine_empty
  | some offset => exact OneLine.append (by decide) (oneLine_repr offset)

theorem oneLine_text {line : Line} (hheading : OneLine line.heading)
    (hlabel : OneLine line.label) : OneLine line.text := by
  have hlabelPart : OneLine (labelPart line.label) := by
    unfold labelPart
    split
    · exact oneLine_empty
    · exact OneLine.append (by decide) hlabel
  exact (((((oneLine_numberField _).append (oneLine_blanks _)).append hheading).append
    (oneLine_decorationPart _)).append hlabelPart).append (oneLine_addressPart _)

end Line

namespace Kind

theorem oneLine_name (kind : Kind) : OneLine kind.name := by
  intro hmem
  cases List.all_eq_true.1 kind.name_word.2 _ hmem

theorem oneLine_baseLabel {kind : Kind}
    (h : ∀ symbol ∈ kind.payload, OneLine symbol.text) : OneLine kind.baseLabel := by
  unfold baseLabel
  cases hpayload : kind.payload with
  | none => exact kind.oneLine_name
  | some symbol => exact (kind.oneLine_name.append (by decide)).append (h symbol hpayload)

end Kind

/-- **What can be read of an outline**, line by line. -/
def readOutline (text : String) : List ((Nat × String) × Nat) :=
  (text.toList.splitOn '\n').dropLast.map readLine

/-- Lines that stay lines can be told apart. -/
theorem splitOn_unlines {lines : List String} (h : ∀ line ∈ lines, OneLine line) :
    (unlines lines).toList.splitOn '\n' = lines.map String.toList ++ [[]] := by
  induction lines with
  | nil => rfl
  | cons line rest ih =>
    have hline := h line List.mem_cons_self
    rw [unlines, String.toList_append, String.toList_append, List.append_assoc]
    show (line.toList ++ '\n' :: (unlines rest).toList).splitOn '\n' = _
    rw [List.splitOn_append_cons_self_of_not_mem hline,
      ih (fun other hother => h other (List.mem_cons_of_mem line hother))]
    rfl

theorem readOutline_unlines {lines : List String} (h : ∀ line ∈ lines, OneLine line) :
    readOutline (unlines lines) = lines.map (fun line => readLine line.toList) := by
  unfold readOutline
  rw [splitOn_unlines h, List.dropLast_concat, List.map_map]
  rfl

namespace Arena

variable {arena : Arena} {handle root : Handle}

/-- What can be read of a node: its number and the name of its kind. -/
def captionOf (arena : Arena) (handle : Handle) : Nat × String :=
  (arena.numberOf handle, (arena.node? handle).elim "" (fun node => node.kind.name))

theorem captionOf_of_node? {node : Node} (h : arena.node? handle = some node) :
    arena.captionOf handle = (node.number, node.kind.name) := by
  rw [captionOf, numberOf, h]
  rfl

theorem kind_of_node? {node : Node} (h : arena.node? handle = some node) :
    arena.kind handle = .ok node.kind := by
  rw [kind, node_eq_ok_iff.2 h]
  rfl

/-- Whether a node has no newline in its label or its spelling. -/
def IsOneLine (arena : Arena) (handle : Handle) : Prop :=
  ∀ node ∈ arena.node? handle,
    OneLine node.label ∧ ∀ symbol ∈ node.kind.payload, OneLine symbol.text

instance (arena : Arena) (handle : Handle) : Decidable (arena.IsOneLine handle) :=
  inferInstanceAs (Decidable (∀ _ ∈ _, _))

/-- **An outline is read as the walk that it was written on.** -/
theorem IsForest.readOutline_outlineText (hforest : arena.IsForest) (h : root ∈ arena)
    (honeLine : ∀ node ∈ (arena.tree root).preorder, arena.IsOneLine node) :
    readOutline (arena.outlineText (arena.headingOf root) root)
      = ((arena.tree root).map arena.captionOf).visits 0 := by
  have hnode : ∀ visit ∈ (arena.tree root).visits 0, ∃ node, arena.node? visit.1 = some node := by
    intro visit hvisit
    exact exists_node? (hforest.mem_of_mem_visits h hvisit)
  have hlines : ∀ line ∈ (arena.treeLines root 0).map Line.text, OneLine line := by
    intro text htext
    obtain ⟨line, hline, rfl⟩ := List.mem_map.1 htext
    obtain ⟨visit, hvisit, rfl⟩ := List.mem_map.1 hline
    obtain ⟨node, hentry⟩ := hnode visit hvisit
    obtain ⟨hlabel, hspelling⟩ := honeLine visit.1
      (Tree.mem_preorder_of_mem_visits hvisit) node hentry
    rw [lineOf_of_node? hentry, headingOf, hentry]
    exact Line.oneLine_text (Kind.oneLine_baseLabel hspelling) hlabel
  rw [hforest.outlineText_eq h, outlineLines, ← hforest.treeLines_eq h, readOutline_unlines hlines,
    Tree.visits_map, treeLines, List.map_map, List.map_map]
  refine List.map_congr_left (fun visit hvisit => ?_)
  obtain ⟨node, hentry⟩ := hnode visit hvisit
  show readLine (arena.lineOf visit.1 (arena.headingOf visit.1) visit.2).text.toList
    = (arena.captionOf visit.1, visit.2)
  rw [captionOf_of_node? hentry, headingOf, lineOf_of_node? hentry, hentry]
  exact readLine_text rfl

/-! ## Trees that are read alike -/

/-- The handle that another arena has for a position. -/
def handOver (target : Arena) (handle : Handle) : Handle :=
  ⟨target.tag, handle.index⟩

variable {first second : Arena} {other : Handle}

/-- A node's number says where it stands in its arena. -/
theorem IsForest.handOver_eq (hforest : arena.IsForest) (target : Arena) (h : handle ∈ arena) :
    target.handOver handle = ⟨target.tag, (arena.captionOf handle).1 - 1⟩ := by
  obtain ⟨node, hnode⟩ := exists_node? h
  rw [captionOf_of_node? hnode, hforest.number_eq hnode]
  rfl

theorem handOver_of_mem (h : handle ∈ arena) : arena.handOver handle = handle := by
  rw [handOver, ← (mem_iff.1 h).1]

/-- **Trees that are read alike become one another** when their handles are handed over. -/
theorem map_handOver_tree_eq (hfirst : first.IsForest) (hsecond : second.IsForest)
    (hroot : root ∈ first) (hother : other ∈ second)
    (h : (first.tree root).map first.captionOf = (second.tree other).map second.captionOf) :
    (first.tree root).map second.handOver = second.tree other := by
  let back : Nat × String → Handle := fun caption => ⟨second.tag, caption.1 - 1⟩
  have hback := congrArg (Tree.map back) h
  rw [Tree.map_map, Tree.map_map] at hback
  calc (first.tree root).map second.handOver
      = (first.tree root).map (back ∘ first.captionOf) := Tree.map_congr (fun node hnode =>
          hfirst.handOver_eq second (hfirst.mem_of_mem_preorder_tree hroot hnode))
    _ = (second.tree other).map (back ∘ second.captionOf) := hback
    _ = (second.tree other).map id := Tree.map_congr (fun node hnode => by
          have hmem := hsecond.mem_of_mem_preorder_tree hother hnode
          exact (hsecond.handOver_eq second hmem).symm.trans (handOver_of_mem hmem))
    _ = second.tree other := Tree.map_id _

/-- Where a tree becomes another, the children of its root become children, and their trees become
trees. -/
theorem map_children_eq (hfirst : first.IsForest) (hsecond : second.IsForest)
    {f : Handle → Handle} {node : Handle} (hnode : node ∈ first) (himage : f node ∈ second)
    (h : (first.tree node).map f = second.tree (f node)) :
    (first.childrenOf node).map f = second.childrenOf (f node) ∧
      ∀ child ∈ first.childrenOf node, (first.tree child).map f = second.tree (f child) := by
  rw [hfirst.tree_eq hnode, hsecond.tree_eq himage, Tree.map_node, List.map_map] at h
  have hbranches := (Tree.node.inj h).2
  have hchildren := congrArg (List.map Tree.value) hbranches
  rw [List.map_map, List.map_map] at hchildren
  have hleft : Tree.value ∘ Tree.map f ∘ first.tree = f := by
    funext handle
    show ((first.tree handle).map f).value = f handle
    rw [Tree.value_map, value_tree]
  have hright : Tree.value ∘ second.tree = id := by
    funext handle
    exact value_tree second handle
  rw [hleft, hright, List.map_id] at hchildren
  rw [← hchildren, List.map_map] at hbranches
  exact ⟨hchildren, List.map_inj_left.1 hbranches⟩

/-- Where a tree becomes another, every tree within it becomes a tree within the other. -/
theorem map_tree_eq_of_mem (hfirst : first.IsForest) (hsecond : second.IsForest)
    {f : Handle → Handle} (hroot : root ∈ first) (hother : other ∈ second)
    (h : (first.tree root).map f = second.tree other) {node : Handle}
    (hnode : node ∈ (first.tree root).preorder) :
    f node ∈ second ∧ (first.tree node).map f = second.tree (f node) := by
  have himage : ∀ node ∈ (first.tree root).preorder, f node ∈ second := by
    intro node hnode
    refine hsecond.mem_of_mem_preorder_tree hother ?_
    rw [← h, Tree.preorder_map]
    exact List.mem_map_of_mem hnode
  refine ⟨himage node hnode, ?_⟩
  -- from the root down to the node
  rw [hfirst.mem_preorder_tree_iff hroot] at hnode
  induction hnode using Relation.ReflTransGen.head_induction_on with
  | refl =>
    have hvalue := congrArg Tree.value h
    rw [Tree.value_map, value_tree, value_tree] at hvalue
    rw [hvalue, h]
  | @head child parent hstep hway ih =>
    have hparent := (hfirst.mem_preorder_tree_iff hroot).2 hway
    exact (map_children_eq hfirst hsecond (hfirst.parent_mem hstep) (himage parent hparent) ih).2
      child (hfirst.mem_childrenOf_iff.2 hstep)

/-- Where a tree becomes another, the nodes of the one correspond to the nodes of the other. -/
theorem bijOn_of_map_tree_eq (hfirst : first.IsForest) (hsecond : second.IsForest)
    {f : Handle → Handle} (hroot : root ∈ first) (hother : other ∈ second)
    (h : (first.tree root).map f = second.tree other) :
    Set.BijOn f (first.subtree root) (second.subtree other) := by
  have hmem : ∀ node, node ∈ first.subtree root ↔ node ∈ (first.tree root).preorder := by
    intro node
    exact hfirst.mem_subtree_iff hroot
  have himage : ∀ node, node ∈ second.subtree other ↔ node ∈ (first.tree root).preorder.map f := by
    intro node
    rw [← Tree.preorder_map, h]
    exact hsecond.mem_subtree_iff hother
  have hnodup : ((first.tree root).preorder.map f).Nodup := by
    rw [← Tree.preorder_map, h]
    exact hsecond.nodup_preorder_tree hother
  refine ⟨?_, ?_, ?_⟩
  · intro node hnode
    show f node ∈ second.subtree other
    exact (himage (f node)).2 (List.mem_map_of_mem ((hmem node).1 hnode))
  · intro node hnode node' hnode' heq
    exact List.inj_on_of_nodup_map hnodup ((hmem node).1 hnode) ((hmem node').1 hnode') heq
  · intro node hnode
    show ∃ origin ∈ first.subtree root, f origin = node
    obtain ⟨origin, horigin, rfl⟩ := List.mem_map.1 ((himage node).1 hnode)
    exact ⟨origin, (hmem origin).2 horigin, rfl⟩

/-- Trees of which the same text is rendered are read alike. -/
theorem map_captionOf_tree_eq (hfirst : first.IsForest) (hsecond : second.IsForest)
    (hroot : root ∈ first) (hother : other ∈ second)
    (hfirstLines : ∀ node ∈ first.subtree root, first.IsOneLine node)
    (hsecondLines : ∀ node ∈ second.subtree other, second.IsOneLine node)
    {threshold threshold' : Threshold}
    (h : (first.render threshold root).1 = (second.render threshold' other).1) :
    (first.tree root).map first.captionOf = (second.tree other).map second.captionOf := by
  have hlines : ∀ node ∈ (first.tree root).preorder, first.IsOneLine node := by
    intro node hnode
    exact hfirstLines node ((hfirst.mem_preorder_tree_iff_mem_ancestors hroot).1 hnode)
  have hlines' : ∀ node ∈ (second.tree other).preorder, second.IsOneLine node := by
    intro node hnode
    exact hsecondLines node ((hsecond.mem_preorder_tree_iff_mem_ancestors hother).1 hnode)
  rw [Printer.render_eq hfirst hroot, Printer.render_eq hsecond hother] at h
  have hvisits : ((first.tree root).map first.captionOf).visits 0
      = ((second.tree other).map second.captionOf).visits 0 := by
    rw [← hfirst.readOutline_outlineText hroot hlines,
      ← hsecond.readOutline_outlineText hother hlines', Except.ok.inj h]
  exact Tree.visits_inj hvisits

/-- Where trees are read alike, each node is read like the node that it becomes. -/
theorem captionOf_eq_of_mem {f : Handle → Handle}
    (hread : (first.tree root).map first.captionOf = (second.tree other).map second.captionOf)
    (h : (first.tree root).map f = second.tree other) {node : Handle}
    (hnode : node ∈ (first.tree root).preorder) :
    first.captionOf node = second.captionOf (f node) := by
  have hpreorder := congrArg Tree.preorder hread
  rw [← h, Tree.map_map, Tree.preorder_map, Tree.preorder_map] at hpreorder
  exact List.map_inj_left.1 hpreorder node hnode

/-- **The outline of a tree determines the tree.** Where the outlines of two trees are the same text
and no label or spelling in them has a newline, the nodes of the one correspond to the nodes of the
other: root to root, and children to children in their order, with equal numbers and kinds of equal
names. -/
theorem render_determines_tree (hfirst : first.Reachable) (hsecond : second.Reachable)
    (hroot : root ∈ first) (hother : other ∈ second)
    (hfirstLines : ∀ node ∈ first.subtree root, first.IsOneLine node)
    (hsecondLines : ∀ node ∈ second.subtree other, second.IsOneLine node)
    (threshold threshold' : Threshold)
    (h : (first.render threshold root).1 = (second.render threshold' other).1) :
    ∃ f : Handle → Handle,
      Set.BijOn f (first.subtree root) (second.subtree other) ∧ f root = other ∧
      ∀ node ∈ first.subtree root,
        (∃ children, first.children node = .ok children ∧
          second.children (f node) = .ok (children.map f)) ∧
        (∃ number, first.number node = .ok number ∧ second.number (f node) = .ok number) ∧
        (∃ kind kind', first.kind node = .ok kind ∧ second.kind (f node) = .ok kind' ∧
          kind.name = kind'.name) := by
  have hforest := hfirst.isForest
  have hforest' := hsecond.isForest
  have hread := map_captionOf_tree_eq hforest hforest' hroot hother hfirstLines hsecondLines h
  have hmap := map_handOver_tree_eq hforest hforest' hroot hother hread
  have hvalue := congrArg Tree.value hmap
  rw [Tree.value_map, value_tree, value_tree] at hvalue
  refine ⟨second.handOver, bijOn_of_map_tree_eq hforest hforest' hroot hother hmap, hvalue,
    fun node hsub => ?_⟩
  have hnode := (hforest.mem_preorder_tree_iff_mem_ancestors hroot).2 hsub
  have hmem := hforest.mem_of_mem_preorder_tree hroot hnode
  obtain ⟨himage, htree⟩ := map_tree_eq_of_mem hforest hforest' hroot hother hmap hnode
  have hcaption := captionOf_eq_of_mem hread hmap hnode
  obtain ⟨entry, hentry⟩ := exists_node? hmem
  obtain ⟨image, himageEntry⟩ := exists_node? himage
  have hnumber : first.numberOf node = second.numberOf (second.handOver node) :=
    congrArg Prod.fst hcaption
  rw [captionOf_of_node? hentry, captionOf_of_node? himageEntry] at hcaption
  refine ⟨⟨first.childrenOf node, children_eq_ok hmem, ?_⟩,
    ⟨first.numberOf node, number_eq_ok hmem, ?_⟩,
    ⟨entry.kind, image.kind, kind_of_node? hentry, kind_of_node? himageEntry,
      congrArg Prod.snd hcaption⟩⟩
  · rw [(map_children_eq hforest hforest' hmem himage htree).1]
    exact children_eq_ok himage
  · rw [hnumber]
    exact number_eq_ok himage

/-- An arena whose identifier has a label and an address. -/
def addressed : Arena :=
  (empty 3).applyAll [.add (.ident ⟨"x"⟩ none), .addOver .block [⟨3, 0⟩],
    .setLabel ⟨3, 0⟩ "top", .setFrameOffset ⟨3, 0⟩ 4]

/-- An arena whose identifier has no address, and a label that looks like one. -/
def disguised : Arena :=
  (empty 9).applyAll [.add (.ident ⟨"x"⟩ none), .addOver .block [⟨9, 0⟩], .add .call,
    .setLabel ⟨9, 0⟩ "top  Addr: 4"]

theorem render_determines_tree_disguised :
    ∃ f : Handle → Handle,
      Set.BijOn f (addressed.subtree ⟨3, 1⟩) (disguised.subtree ⟨9, 1⟩) ∧ f ⟨3, 1⟩ = ⟨9, 1⟩ ∧
      ∀ node ∈ addressed.subtree ⟨3, 1⟩,
        (∃ children, addressed.children node = .ok children ∧
          disguised.children (f node) = .ok (children.map f)) ∧
        (∃ number, addressed.number node = .ok number ∧
          disguised.number (f node) = .ok number) ∧
        (∃ kind kind', addressed.kind node = .ok kind ∧ disguised.kind (f node) = .ok kind' ∧
          kind.name = kind'.name) := by
  have hreach : addressed.Reachable := (Reachable.empty 3).applyAll _
  have hreach' : disguised.Reachable := (Reachable.empty 9).applyAll _
  have hlines : ∀ node ∈ addressed.handles, addressed.IsOneLine node := by decide
  have hlines' : ∀ node ∈ disguised.handles, disguised.IsOneLine node := by decide
  have hsame : (addressed.render .off ⟨3, 1⟩).1 = (disguised.render .off ⟨9, 1⟩).1 := by rfl
  exact render_determines_tree hreach hreach' (by decide) (by decide)
    (fun node hnode => hlines node (mem_handles_iff.2 (mem_of_mem_ancestors hnode)))
    (fun node hnode => hlines' node (mem_handles_iff.2 (mem_of_mem_ancestors hnode)))
    .off .off hsame

end Arena

end SyntaxOutline
