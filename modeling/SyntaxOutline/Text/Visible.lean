/-!
# What can be seen of a text

A text may hold characters that are not shown but tell a terminal what to do. Some stand alone;
others begin a sequence, which may go on through characters that would be shown if they stood
elsewhere. What is left when all of these are taken out is the **visible** part of the text.

An escape character begins a sequence wherever it comes, and what follows it tells the kind:

* after a bracket comes a **control sequence**, up to its first letter (or another character from
  `@` to `~`);
* after a closing bracket comes a **command**, up to a bell;
* after a `P` comes the **head of a string**, whose last character is like that of a control
  sequence, and then the string itself; after `X`, `^` and `_` the string comes at once. A string
  ends with the character that is a terminator in eight bits, and what has that among its bytes ends
  it, too;
* anything else from `0` to `~` ends the sequence, and the characters from the blank to `/` before
  it belong to it.

The controls cancel and substitute break off every sequence.

Layout (tabs, new lines, form feeds and carriage returns) is part of what is shown, even within an
escape or a control sequence. There it does not end the sequence but **suspends** it: what follows
is shown like text, until a character comes that text would not show. That one is read as part of
the suspended sequence, which is forgotten if a character beyond ASCII has been shown meanwhile.
-/

namespace SyntaxOutline

/-- **What the next character of a text belongs to.** -/
inductive Stretch where
  /-- Text that is shown. -/
  | text
  /-- A sequence of which nothing but the escape has come. -/
  | escape
  /-- A sequence that is short but for its last character. -/
  | escapeTail
  /-- A control sequence. -/
  | control
  /-- A command. -/
  | command
  /-- The head of a string, from its beginning. -/
  | head
  /-- The head of a string, after a parameter. -/
  | headParameter
  /-- The head of a string, but for its last character. -/
  | headTail
  /-- A string. -/
  | string
  deriving DecidableEq

/-- Layout: what is no text and yet shown. -/
def isLayout (c : Char) : Bool :=
  c = '\t' || c = '\n' || c = '\x0c' || c = '\r'

/-- Whether text shows a character. -/
def isShown (c : Char) : Bool :=
  (' ' ≤ c && c ≠ '\x7f') || isLayout c

/-- Whether a character has the terminator of eight bits among its bytes. -/
def holdsTerminator (c : Char) : Bool :=
  (String.utf8EncodeChar c).contains 0x9C

namespace Stretch

/-- **Where a character leads** that is not shown. -/
def next (stretch : Stretch) (c : Char) : Stretch :=
  if c = '\x1b' then escape
  else if c = '\x18' ∨ c = '\x1a' then text
  else
    match stretch with
    | text => text
    | escape =>
      if c = '[' then control
      else if c = ']' then command
      else if c = 'P' then head
      else if c = 'X' ∨ c = '^' ∨ c = '_' then string
      else if '0' ≤ c ∧ c ≤ '~' then text
      else if ' ' ≤ c ∧ c ≤ '/' then escapeTail
      else escape
    | escapeTail => if '0' ≤ c ∧ c ≤ '~' then text else escapeTail
    | control => if '@' ≤ c ∧ c ≤ '~' then text else control
    | command => if c = '\x07' then text else command
    | head =>
      if '@' ≤ c ∧ c ≤ '~' then string
      else if '0' ≤ c ∧ c ≤ '?' then headParameter
      else if ' ' ≤ c ∧ c ≤ '/' then headTail
      else head
    | headParameter =>
      if '<' ≤ c ∧ c ≤ '~' then string
      else if ' ' ≤ c ∧ c ≤ '/' then headTail
      else headParameter
    | headTail => if '0' ≤ c ∧ c ≤ '~' then string else headTail
    | string => if holdsTerminator c then text else string

/-- Whether layout is shown here, and suspends what it comes in. -/
def showsLayout : Stretch → Bool
  | escape | escapeTail | control => true
  | _ => false

/-- The characters of a text that are shown, read from within a stretch, which may be suspended. -/
def visible (stretch : Stretch) (suspended : Bool) : List Char → List Char
  | [] => []
  | c :: rest =>
    if stretch = text ∨ suspended then
      if isShown c then
        c :: visible (if c.toNat < 0x80 then stretch else text) suspended rest
      else visible (stretch.next c) false rest
    else if stretch.showsLayout ∧ isLayout c then c :: visible stretch true rest
    else visible (stretch.next c) false rest

/-- Whatever the stretch, nothing comes out that text would not show. -/
theorem isShown_of_mem_visible {c : Char} {stretch : Stretch} {suspended : Bool}
    {characters : List Char} (h : c ∈ visible stretch suspended characters) : isShown c = true := by
  fun_induction visible stretch suspended characters with
  | case1 => cases h
  | case2 stretch suspended c' rest _ hshown ih =>
    rcases List.mem_cons.1 h with rfl | h
    · exact hshown
    · exact ih h
  | case3 stretch suspended c' rest _ _ ih => exact ih h
  | case4 stretch suspended c' rest _ hlayout ih =>
    rcases List.mem_cons.1 h with rfl | h
    · simp [isShown, hlayout.2]
    · exact ih h
  | case5 stretch suspended c' rest _ _ ih => exact ih h

/-- Of a text whose characters are all shown, all is visible. -/
theorem visible_eq_self {characters : List Char} (h : ∀ c ∈ characters, isShown c = true) :
    visible text false characters = characters := by
  induction characters with
  | nil => rfl
  | cons c rest ih =>
    have hrest := ih fun d hd => h d (List.mem_cons_of_mem c hd)
    simp [visible, h c List.mem_cons_self, hrest]

end Stretch

/-- **The visible part of a text.** -/
def visible (text : String) : String :=
  String.ofList (Stretch.text.visible false text.toList)

/-- What is visible of a text is visible altogether. -/
@[simp] theorem visible_visible (text : String) : visible (visible text) = visible text := by
  simp [visible, Stretch.visible_eq_self fun _ => Stretch.isShown_of_mem_visible]

end SyntaxOutline
