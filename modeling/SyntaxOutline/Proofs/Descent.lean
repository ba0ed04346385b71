import SyntaxOutline.Proofs.Sessions
import SyntaxOutline.Proofs.Strangers

/-!
# The descent of arenas

A session may keep any number of arenas, and handles travel between them. What
decides whether an arena takes a handle for one of its own is the tag, and a
tag says no more than where an arena has come from: an arena that is started
gets a new tag, a copy has the tag of its source, and edits leave it alone. So
two arenas carry the same tag just if both **descend** by copying from one
that was started (`Session.tag_eq_iff_sameDescent`), and the handles of an
arena are strangers to every arena of another descent.

## Tracing an arena back

Who descends from whom is told from the **arrivals** of a session, that is,
from what its commands were and how they were answered. Arrivals come *in
order*: each new arena takes the next number, and what is copied is there
already. So an arena can be traced back over the arrivals, from the last to
the first, to one `Arrival.origin`; and since nothing is copied before it has
arrived, whatever an arena descends from traces back to the same origin
(`Arrival.InOrder.origin_eq_of_descends`).

What has come of an arena since some moment is told in the same way, by the
arrivals since then. An arena then traces back either to one that was there at
the moment, and is some edits away from what that one was, or to one that was
started since and has a later tag (`Session.exists_origin_of_arena?`).
-/

namespace SyntaxOutline

/-- **The arrivals that commands bring about**, in the order of the commands. -/
def Session.arrivals (threshold : Threshold) : List Command → Session → List Arrival
  | [], _ => []
  | command :: rest, session =>
    let step := session.perform threshold command
    (command.arrival? step.reply).toList ++ step.session.arrivals threshold rest

/-! ## Arrivals -/

namespace Arrival

variable {arrivals : List Arrival} {count number other : Nat}

/-- **Descent by copying**: an arena descends from itself, from what it is a copy of, from what that
is a copy of, and so on. -/
def Descends (arrivals : List Arrival) : Nat → Nat → Prop :=
  Relation.ReflTransGen fun source copy => copied source copy ∈ arrivals

/-- **Arenas of the same descent**: both descend from one that was started. -/
def SameDescent (arrivals : List Arrival) (number other : Nat) : Prop :=
  ∃ ancestor, founded ancestor ∈ arrivals ∧
    Descends arrivals ancestor number ∧ Descends arrivals ancestor other

/-- The number by which an arena was known before all of some arrivals. -/
def origin (arrivals : List Arrival) (number : Nat) : Nat :=
  arrivals.foldr before number

theorem origin_cons (arrival : Arrival) (arrivals : List Arrival) (number : Nat) :
    origin (arrival :: arrivals) number = before arrival (origin arrivals number) := rfl

theorem origin_toList_append (arrival : Option Arrival) (arrivals : List Arrival) (number : Nat) :
    origin (arrival.toList ++ arrivals) number
      = arrival.elim (origin arrivals number) (before · (origin arrivals number)) := by
  cases arrival <;> rfl

/-- An arena descends from its origin. -/
theorem descends_origin (arrivals : List Arrival) (number : Nat) :
    Descends arrivals (origin arrivals number) number := by
  induction arrivals with
  | nil => exact Relation.ReflTransGen.refl
  | cons arrival rest ih =>
    have hrest : Descends (arrival :: rest) (origin rest number) number :=
      Relation.ReflTransGen.mono (fun _ _ => List.mem_cons_of_mem arrival) _ _ ih
    rw [origin_cons]
    cases arrival with
    | founded _ => exact hrest
    | copied source copy =>
      rw [before_copied]
      split
      · next hcopy =>
        refine Relation.ReflTransGen.head ?_ hrest
        rw [hcopy]
        exact List.mem_cons_self
      · exact hrest

/-- **Arrivals in order**, to a session that has so many arenas: each takes the next number, and
what is copied is there already. -/
inductive InOrder : Nat → List Arrival → Prop
  | nil (count : Nat) : InOrder count []
  | founded {count : Nat} {rest : List Arrival} (hrest : InOrder (count + 1) rest) :
    InOrder count (.founded count :: rest)
  | copied {count source : Nat} {rest : List Arrival} (hsource : source < count)
    (hrest : InOrder (count + 1) rest) : InOrder count (.copied source count :: rest)

namespace InOrder

/-- An arena that was there already is its own origin. -/
theorem origin_of_lt (h : InOrder count arrivals) (hlt : number < count) :
    origin arrivals number = number := by
  induction h with
  | nil => rfl
  | founded _ ih => exact ih (Nat.lt_succ_of_lt hlt)
  | copied _ _ ih =>
    rw [origin_cons, ih (Nat.lt_succ_of_lt hlt)]
    exact if_neg (Nat.ne_of_lt hlt)

theorem le_of_founded (h : InOrder count arrivals) (hmem : Arrival.founded number ∈ arrivals) :
    count ≤ number := by
  induction h with
  | nil => cases hmem
  | founded _ ih =>
    obtain heq | hrest := List.mem_cons.1 hmem
    · exact Nat.le_of_eq (Arrival.founded.inj heq).symm
    · exact Nat.le_of_succ_le (ih hrest)
  | copied _ _ ih =>
    obtain heq | hrest := List.mem_cons.1 hmem
    · cases heq
    · exact Nat.le_of_succ_le (ih hrest)

/-- A copy and its source trace back to the same origin. -/
theorem origin_eq_of_copied (h : InOrder count arrivals)
    (hmem : Arrival.copied number other ∈ arrivals) :
    origin arrivals other = origin arrivals number := by
  induction h with
  | nil => cases hmem
  | founded _ ih =>
    obtain heq | hrest := List.mem_cons.1 hmem
    · cases heq
    · exact ih hrest
  | copied hsource hrest ih =>
    rw [origin_cons, origin_cons]
    obtain heq | hmem := List.mem_cons.1 hmem
    · -- both were there when the copy had arrived, and are their own origins since then
      cases heq
      rw [hrest.origin_of_lt (Nat.lt_succ_self _),
        hrest.origin_of_lt (Nat.lt_succ_of_lt hsource)]
      exact (if_pos rfl).trans (if_neg (Nat.ne_of_lt hsource)).symm
    · exact congrArg (before _) (ih hmem)

/-- **What descends from an arena traces back to the same origin.** -/
theorem origin_eq_of_descends (h : InOrder count arrivals)
    (hdescends : Descends arrivals number other) :
    origin arrivals other = origin arrivals number := by
  induction hdescends with
  | refl => rfl
  | tail _ hcopied ih => exact (h.origin_eq_of_copied hcopied).trans ih

/-- What descends from an arena that was there already is what traces back to it. -/
theorem descends_iff (h : InOrder count arrivals) (hlt : number < count) :
    Descends arrivals number other ↔ origin arrivals other = number := by
  constructor
  · intro hdescends
    exact (h.origin_eq_of_descends hdescends).trans (h.origin_of_lt hlt)
  · rintro rfl
    exact descends_origin arrivals other

end InOrder

end Arrival

/-! ## Sessions -/

namespace Session

open Arrival

variable {session next : Session} {arrival : Option Arrival} {number other : Nat}
  {found foreign : Arena}

theorem Turn.nextTag_le (h : Turn session next arrival) : session.nextTag ≤ next.nextTag := by
  cases h with
  | founds _ _ htag => exact htag ▸ Nat.le_succ _
  | copies _ _ htag => exact Nat.le_of_eq htag.symm
  | changes _ _ _ htag => exact Nat.le_of_eq htag.symm
  | rests _ htag => exact htag

/-- A tag is given out once. -/
theorem Turn.nextTag_lt (h : Turn session next arrival) (hmem : founded number ∈ arrival.toList) :
    session.nextTag < next.nextTag := by
  cases h with
  | founds _ _ htag => exact htag ▸ Nat.lt_succ_self _
  | copies => cases List.mem_singleton.1 hmem
  | changes => cases hmem
  | rests => cases hmem

/-- An arrival is the next in order. -/
theorem Turn.inOrder {rest : List Arrival} (h : Turn session next arrival)
    (hrest : InOrder next.arenas.size rest) :
    InOrder session.arenas.size (arrival.toList ++ rest) := by
  cases h with
  | founds _ harenas =>
    rw [harenas, Array.size_push] at hrest
    exact InOrder.founded hrest
  | copies harena harenas =>
    rw [harenas, Array.size_push] at hrest
    exact InOrder.copied (Array.getElem?_eq_some_iff.1 harena).1 hrest
  | changes _ _ harenas =>
    rw [harenas, Array.size_modify] at hrest
    exact hrest
  | rests harenas =>
    rw [harenas] at hrest
    exact hrest

theorem inOrder_arrivals (threshold : Threshold) (commands : List Command) (session : Session) :
    InOrder session.arenas.size (session.arrivals threshold commands) := by
  induction commands generalizing session with
  | nil => exact InOrder.nil _
  | cons command rest ih => exact (turn_perform threshold command session).inOrder (ih _)

/-- An arrival does not bear on later numbers. -/
theorem Turn.elim_before (h : Turn session next arrival) (hle : next.arenas.size ≤ number) :
    arrival.elim number (before · number) = number := by
  cases h with
  | founds => rfl
  | copies _ harenas =>
    rw [harenas, Array.size_push] at hle
    exact if_neg (Nat.ne_of_gt hle)
  | changes => rfl
  | rests => rfl

theorem arrivals_append (threshold : Threshold) (first second : List Command)
    (session : Session) :
    session.arrivals threshold (first ++ second)
      = session.arrivals threshold first
        ++ (session.performAll threshold first).arrivals threshold second := by
  induction first generalizing session with
  | nil => rfl
  | cons command rest ih =>
    rw [List.cons_append, arrivals, arrivals, performAll_cons, ih, List.append_assoc]

/-- **Where an arena has come from**: it is some edits away from the one it traces back to, if that
was there at the beginning. Otherwise that one was started meanwhile, and the tag is a later one. -/
theorem exists_origin_of_arena? {threshold : Threshold} {commands : List Command}
    (h : (session.performAll threshold commands).arena? number = some found) :
    (∃ arena edits, found = arena.applyAll edits ∧
        session.arena? (origin (session.arrivals threshold commands) number) = some arena) ∨
      founded (origin (session.arrivals threshold commands) number)
          ∈ session.arrivals threshold commands ∧
        session.nextTag ≤ found.tag := by
  induction commands generalizing session with
  | nil => exact Or.inl ⟨found, [], rfl, h⟩
  | cons command rest ih =>
    have hturn := turn_perform threshold command session
    rw [arrivals, origin_toList_append]
    obtain ⟨middle, edits, rfl, hmiddle⟩ | ⟨hfounded, htag⟩ := ih h
    · obtain ⟨arena, first, rfl, harena | ⟨harrival, rfl⟩⟩ := hturn.exists_origin hmiddle
      · exact Or.inl ⟨arena, first ++ edits, (Arena.applyAll_append first edits arena).symm, harena⟩
      · rw [harrival]
        exact Or.inr ⟨List.mem_cons_self, by simp⟩
    · have hle := (inOrder_arrivals threshold rest _).le_of_founded hfounded
      rw [hturn.elim_before hle]
      exact Or.inr ⟨List.mem_append_right _ hfounded, Nat.le_trans hturn.nextTag_le htag⟩

/-- An arena keeps its number at a turn, and may become some edits of what it was. -/
theorem Turn.exists_later (h : Turn session next arrival)
    (hfound : session.arena? number = some found) :
    ∃ edits, next.arena? number = some (found.applyAll edits) := by
  cases h with
  | founds _ harenas => exact ⟨[], arena?_of_push harenas hfound⟩
  | copies _ harenas => exact ⟨[], arena?_of_push harenas hfound⟩
  | @changes place arena edits harena harenas =>
    rw [arena?, harenas, Array.getElem?_modify]
    split
    · next hplace =>
      subst hplace
      cases harena.symm.trans hfound
      exact ⟨edits, congrArg (Option.map _) harena⟩
    · exact ⟨[], hfound⟩
  | rests harenas =>
    rw [arena?, harenas]
    exact ⟨[], hfound⟩

/-- An arena that is there keeps its number, and becomes some edits of what it was. -/
theorem exists_arena?_performAll (threshold : Threshold) (commands : List Command)
    (h : session.arena? number = some found) :
    ∃ edits, (session.performAll threshold commands).arena? number
      = some (found.applyAll edits) := by
  induction commands generalizing session found with
  | nil => exact ⟨[], h⟩
  | cons command rest ih =>
    obtain ⟨first, hfirst⟩ := (turn_perform threshold command session).exists_later h
    obtain ⟨edits, hedits⟩ := ih hfirst
    exact ⟨first ++ edits, hedits.trans (congrArg some (Arena.applyAll_append ..).symm)⟩

/-- **What descends from an arena** that was there at the beginning is some edits away from what it
was. -/
theorem exists_edits_of_descends {threshold : Threshold} {commands : List Command}
    (h : session.arena? number = some found)
    (hdescends : Descends (session.arrivals threshold commands) number other)
    (hother : (session.performAll threshold commands).arena? other = some foreign) :
    ∃ edits, foreign = found.applyAll edits := by
  have horder := inOrder_arrivals threshold commands session
  have hlt := (Array.getElem?_eq_some_iff.1 h).1
  have horigin := (horder.descends_iff hlt).1 hdescends
  obtain ⟨arena, edits, rfl, harena⟩ | ⟨hfounded, -⟩ := exists_origin_of_arena? hother
  · rw [horigin, h] at harena
    cases harena
    exact ⟨edits, rfl⟩
  · rw [horigin] at hfounded
    exact absurd (horder.le_of_founded hfounded) (Nat.not_le_of_lt hlt)

/-! ## Tags -/

/-- **Tags by number**: what the tags of the arenas were and have become, given by one tag for each
number. An arena has the tag of its origin, and what has been started has a tag of its own. -/
structure TaggedBy (session next : Session) (arrivals : List Arrival) (tagOf : Nat → Nat) :
    Prop where
  earlier {number : Nat} {found : Arena} :
    session.arena? number = some found → found.tag = tagOf number
  later {number : Nat} {found : Arena} :
    next.arena? number = some found → found.tag = tagOf (origin arrivals number)
  fresh {number : Nat} : founded number ∈ arrivals → session.nextTag ≤ tagOf number
  distinct {number other : Nat} : founded number ∈ arrivals → founded other ∈ arrivals →
    tagOf number = tagOf other → number = other

/-- The arrival of a copy leaves every number the tag it has. -/
theorem Turn.tagOf_before {tagOf : Nat → Nat} (h : Turn session next arrival)
    (htags : ∀ {number found}, next.arena? number = some found → found.tag = tagOf number)
    (number : Nat) : tagOf (arrival.elim number (before · number)) = tagOf number := by
  cases h with
  | founds => rfl
  | @copies source arena harena harenas =>
    rw [Option.elim_some, before_copied]
    split
    · next hnew =>
      rw [hnew, ← htags (arena?_of_push harenas harena), htags (arena?_of_push_self harenas)]
    · rfl
  | changes => rfl
  | rests => rfl

/-- What is started at a turn gets the next tag. -/
theorem Turn.tagOf_founded {tagOf : Nat → Nat} (h : Turn session next arrival)
    (htags : ∀ {number found}, next.arena? number = some found → found.tag = tagOf number)
    (hmem : founded number ∈ arrival.toList) : tagOf number = session.nextTag := by
  cases h with
  | founds edits harenas =>
    cases founded.inj (List.mem_singleton.1 hmem)
    rw [← htags (arena?_of_push_self harenas), Arena.tag_applyAll, Arena.tag_empty]
  | copies => cases List.mem_singleton.1 hmem
  | changes => cases hmem
  | rests => cases hmem

/-- One more turn comes first. -/
theorem TaggedBy.turn {middle : Session} {rest : List Arrival} {tagOf : Nat → Nat}
    (hrest : TaggedBy middle next rest tagOf) (h : Turn session middle arrival) :
    TaggedBy session next (arrival.toList ++ rest) tagOf where
  earlier := by
    intro number found hfound
    obtain ⟨edits, hlater⟩ := h.exists_later hfound
    rw [← hrest.earlier hlater, Arena.tag_applyAll]
  later := by
    intro number found hfound
    rw [origin_toList_append, h.tagOf_before hrest.earlier, hrest.later hfound]
  fresh := by
    intro number hmem
    obtain hmem | hmem := List.mem_append.1 hmem
    · exact Nat.le_of_eq (h.tagOf_founded hrest.earlier hmem).symm
    · exact Nat.le_trans h.nextTag_le (hrest.fresh hmem)
  distinct := by
    -- the tag of this arrival is less than that of any later one
    have hlt {new later : Nat} (hnew : founded new ∈ arrival.toList)
        (hlater : founded later ∈ rest) : tagOf new < tagOf later := by
      rw [h.tagOf_founded hrest.earlier hnew]
      exact Nat.lt_of_lt_of_le (h.nextTag_lt hnew) (hrest.fresh hlater)
    intro number other hnumber hother htag
    obtain hnumber | hnumber := List.mem_append.1 hnumber <;>
      obtain hother | hother := List.mem_append.1 hother
    · rw [Option.mem_toList] at hnumber hother
      exact founded.inj (Option.some.inj (hnumber.symm.trans hother))
    · exact absurd htag (Nat.ne_of_lt (hlt hnumber hother))
    · exact absurd htag (Nat.ne_of_gt (hlt hother hnumber))
    · exact hrest.distinct hnumber hother htag

theorem exists_taggedBy (threshold : Threshold) (commands : List Command) (session : Session) :
    ∃ tagOf, TaggedBy session (session.performAll threshold commands)
      (session.arrivals threshold commands) tagOf := by
  induction commands generalizing session with
  | nil =>
    have htags : ∀ {number found}, session.arena? number = some found →
        found.tag = (session.arena? number).elim 0 Arena.tag := by
      intro number found hfound
      rw [hfound]
      rfl
    exact ⟨fun number => (session.arena? number).elim 0 Arena.tag, htags, htags, nofun, nofun⟩
  | cons command rest ih =>
    obtain ⟨tagOf, hrest⟩ := ih (session.perform threshold command).session
    exact ⟨tagOf, hrest.turn (turn_perform threshold command session)⟩

/-- The tags that have been given out are less than the next one, if they were so at first. -/
theorem tag_lt_nextTag (threshold : Threshold) (commands : List Command)
    (hstart : ∀ number arena, session.arena? number = some arena → arena.tag < session.nextTag)
    (h : (session.performAll threshold commands).arena? number = some found) :
    found.tag < (session.performAll threshold commands).nextTag := by
  induction commands generalizing session with
  | nil => exact hstart number found h
  | cons command rest ih =>
    have hturn := turn_perform threshold command session
    refine ih (fun place arena harena => ?_) h
    obtain ⟨origin, edits, rfl, horigin | ⟨harrival, rfl⟩⟩ := hturn.exists_origin harena
    · rw [Arena.tag_applyAll]
      exact Nat.lt_of_lt_of_le (hstart _ origin horigin) hturn.nextTag_le
    · rw [Arena.tag_applyAll]
      exact hturn.nextTag_lt (Option.mem_toList.2 harrival)

/-- Where there are no arenas, there is none of any number. -/
theorem arena?_of_arenas_eq (hstart : session.arenas = #[]) (number : Nat) :
    session.arena? number = none := by
  rw [arena?, hstart]
  rfl

/-- **Each arena descends from one that was started**, if none was there at the beginning. -/
theorem founded_origin {threshold : Threshold} {commands : List Command}
    (hstart : session.arenas = #[])
    (h : (session.performAll threshold commands).arena? number = some found) :
    founded (origin (session.arrivals threshold commands) number)
      ∈ session.arrivals threshold commands := by
  obtain ⟨arena, _, -, harena⟩ | ⟨hfounded, -⟩ := exists_origin_of_arena? h
  · rw [arena?_of_arenas_eq hstart] at harena
    cases harena
  · exact hfounded

/-- Each arena is reachable then, and so a forest. -/
theorem reachable_of_arenas_eq {threshold : Threshold} {commands : List Command}
    (hstart : session.arenas = #[])
    (h : (session.performAll threshold commands).arena? number = some found) :
    found.Reachable := by
  refine reachable_of_arena? threshold commands (fun place arena harena => ?_) h
  rw [arena?_of_arenas_eq hstart] at harena
  cases harena

/-- **Tags tell descent.** Two arenas carry the same tag just if both descend from one that was
started. -/
theorem tag_eq_iff_sameDescent {threshold : Threshold} {commands : List Command}
    (hstart : session.arenas = #[])
    (hfound : (session.performAll threshold commands).arena? number = some found)
    (hforeign : (session.performAll threshold commands).arena? other = some foreign) :
    found.tag = foreign.tag ↔ SameDescent (session.arrivals threshold commands) number other := by
  obtain ⟨tagOf, htagged⟩ := exists_taggedBy threshold commands session
  rw [htagged.later hfound, htagged.later hforeign]
  constructor
  · intro htag
    have horigin := htagged.distinct (founded_origin hstart hfound)
      (founded_origin hstart hforeign) htag
    refine ⟨_, founded_origin hstart hfound, descends_origin _ number, ?_⟩
    rw [horigin]
    exact descends_origin _ other
  · rintro ⟨ancestor, -, hnumber, hother⟩
    have horder := inOrder_arrivals threshold commands session
    rw [horder.origin_eq_of_descends hnumber, horder.origin_eq_of_descends hother]

/-- **Handles are known by descent.** Two arenas of a session carry the same tag just if both
descend by copying from one that was started. If they do, a handle of the one is a handle of the
other unless it stands beyond its last node. If they do not, it is disowned by the other wherever it
stands: the other does not contain it and stores it nowhere, refuses whatever is asked about it or
relies on it, and does not take it for a child of a new node. -/
theorem handles_are_known_by_descent (hstart : session.arenas = #[]) (threshold : Threshold)
    (commands : List Command)
    (hfound : (session.performAll threshold commands).arena? number = some found)
    (hforeign : (session.performAll threshold commands).arena? other = some foreign) :
    (found.tag = foreign.tag ↔ SameDescent (session.arrivals threshold commands) number other) ∧
      ∀ handle : Handle, handle.tag = found.tag →
        (SameDescent (session.arrivals threshold commands) number other →
          (handle ∈ foreign ↔ handle.index < foreign.size)) ∧
        (¬ SameDescent (session.arrivals threshold commands) number other →
          foreign.Disowns handle ∧ ¬ foreign.Stores handle ∧
            ∀ kind children, handle ∈ children →
              (∃ fault, (foreign.apply (.addOver kind children)).1 = .error fault) ∧
                ¬ (foreign.apply (.addOver kind children)).2.Stores handle) := by
  have htags := tag_eq_iff_sameDescent hstart hfound hforeign
  have hforest := (reachable_of_arenas_eq hstart hforeign).isForest
  refine ⟨htags, fun handle hhandle => ⟨fun hsame => ?_, fun hdiffer => ?_⟩⟩
  · exact and_iff_right (hhandle.trans (htags.2 hsame))
  · have hne : handle.tag ≠ foreign.tag :=
      fun htag => hdiffer (htags.1 (hhandle.symm.trans htag))
    have hstranger : handle ∉ foreign := fun hmem => hne hmem.1
    exact ⟨Arena.disowns_of_not_mem hstranger,
      fun hstores => hstranger (hforest.mem_of_stores hstores),
      fun kind _ hmem => hforest.apply_addOver_of_tag_ne hne kind hmem⟩

/-- Commands for three arenas, the last of which is a copy of the first and is edited afterwards.
Handles of the first are brought to the second, where they would be in range. -/
def mingle : List Command :=
  [.create, .edit 0 (.add .block), .create, .edit 1 (.add .program), .edit 1 (.add .decl), .copy 0,
    .edit 2 (.addOver .call [⟨7, 0⟩]), .edit 1 (.attach ⟨8, 0⟩ ⟨7, 0⟩),
    .edit 1 (.decorate ⟨7, 0⟩ ⟨8, 1⟩), .edit 1 (.addOver .formals [⟨8, 1⟩, ⟨7, 0⟩])]

theorem handles_are_known_by_descent_mingle :
    ∃ first second third : Arena,
      ((Session.mk 7 #[] #[]).performAll .off mingle).arena? 0 = some first ∧
      ((Session.mk 7 #[] #[]).performAll .off mingle).arena? 1 = some second ∧
      ((Session.mk 7 #[] #[]).performAll .off mingle).arena? 2 = some third ∧
      SameDescent ((Session.mk 7 #[] #[]).arrivals .off mingle) 0 2 ∧
      (⟨7, 1⟩ : Handle) ∈ third ∧
      ¬ SameDescent ((Session.mk 7 #[] #[]).arrivals .off mingle) 0 1 ∧
      second.Disowns ⟨7, 1⟩ ∧ ¬ second.Stores ⟨7, 1⟩ := by
  obtain ⟨first, hfirst, htag⟩ : ∃ first : Arena,
      ((Session.mk 7 #[] #[]).performAll .off mingle).arena? 0 = some first ∧ first.tag = 7 :=
    ⟨_, rfl, rfl⟩
  obtain ⟨second, hsecond, htagSecond⟩ : ∃ second : Arena,
      ((Session.mk 7 #[] #[]).performAll .off mingle).arena? 1 = some second ∧ second.tag = 8 :=
    ⟨_, rfl, rfl⟩
  obtain ⟨third, hthird, htagThird, hsize⟩ : ∃ third : Arena,
      ((Session.mk 7 #[] #[]).performAll .off mingle).arena? 2 = some third ∧ third.tag = 7 ∧
        third.size = 2 :=
    ⟨_, rfl, rfl, rfl⟩
  obtain ⟨hsame, hknown⟩ := handles_are_known_by_descent rfl .off mingle hfirst hthird
  obtain ⟨hdiffer, hstranger⟩ := handles_are_known_by_descent rfl .off mingle hfirst hsecond
  have hdescent := hsame.1 (htag.trans htagThird.symm)
  have hnone : ¬ SameDescent ((Session.mk 7 #[] #[]).arrivals .off mingle) 0 1 := by
    rw [← hdiffer, htag, htagSecond]
    decide
  have hmem := ((hknown ⟨7, 1⟩ htag.symm).1 hdescent).2 (hsize ▸ Nat.lt_succ_self 1)
  obtain ⟨hdisowned, hstored, -⟩ := (hstranger ⟨7, 1⟩ htag.symm).2 hnone
  exact ⟨first, second, third, hfirst, hsecond, hthird, hdescent, hmem, hnone, hdisowned, hstored⟩

end Session

end SyntaxOutline
