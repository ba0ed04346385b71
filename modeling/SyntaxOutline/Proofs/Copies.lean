import SyntaxOutline.Proofs.Descent
import SyntaxOutline.Proofs.Growth

/-!
# Handles of copies

A copy keeps the tag, so that the handles that were issued before it was made
are good in both arenas. But both go on from there, and each issues the next
position under the same tag for a node of its own. So a handle that one of
them has issued *since* is not a stranger to the other one. As soon as the
other has as many nodes, it takes the handle for that of a node which has
nothing to do with the one the handle was issued for
(`Session.issued_handle_denotes_another_node`).

What can be relied on is told by where an arena has come from since the handle
was issued. An arena that descends from the issuing one since then has the
node, as it was or has become by further edits. Any other arena that contains
the handle descends from a copy that had parted from the issuing arena before,
and that the issue of the handle has not touched. And which arenas contain it
is a matter of descent and of size alone
(`Session.issued_handle_denotes_own_or_other`).
-/

namespace SyntaxOutline

/-- Whether an edit adds a node. -/
def Edit.IsAddition : Edit → Prop
  | .add _ | .addOver _ _ => True
  | _ => False

namespace Arena

variable {arena : Arena} {handle : Handle}

/-- **An addition that is carried out answers with the handle of the new node**, which is there from
then on. -/
theorem apply_addition_eq_ok {edit : Edit} (hedit : edit.IsAddition)
    (h : (arena.apply edit).1 = .ok handle) :
    handle = arena.next ∧ handle ∈ (arena.apply edit).2 := by
  cases edit with
  | add kind =>
    cases h
    exact ⟨rfl, mem_push_iff.2 (Or.inr rfl)⟩
  | addOver kind children =>
    obtain ⟨hnext, -⟩ := apply_addOver_eq_ok h
    refine ⟨hnext, (attachEach_leads arena.next children (arena.push kind)).extends.mem ?_⟩
    exact mem_push_iff.2 (Or.inr hnext)
  | _ => exact hedit.elim

end Arena

namespace Session

open Arrival

variable {threshold : Threshold} {session next : Session} {place number : Nat} {handle : Handle}
  {found : Arena}

/-- **A session issues a handle**: it adds a node to an arena, with or without children, and answers
with the handle. -/
def Issues (threshold : Threshold) (session : Session) (place : Nat) (handle : Handle)
    (next : Session) : Prop :=
  ∃ edit : Edit, edit.IsAddition ∧
    (session.perform threshold (.edit place edit)).reply = .edited (.ok handle) ∧
    (session.perform threshold (.edit place edit)).session = next

theorem Issues.exists_arena (h : session.Issues threshold place handle next) :
    ∃ arena edit, session.arena? place = some arena ∧ handle = arena.next ∧
      handle ∈ (arena.apply edit).2 ∧ next = session.putArena place (arena.apply edit).2 := by
  obtain ⟨edit, hedit, hreply, hnext⟩ := h
  dsimp only [perform] at hreply hnext
  cases harena : session.arena? place with
  | none =>
    rw [harena] at hreply
    cases hreply
  | some arena =>
    rw [harena] at hreply hnext
    obtain ⟨hhandle, hmem⟩ := Arena.apply_addition_eq_ok hedit (Reply.edited.inj hreply)
    exact ⟨arena, edit, rfl, hhandle, hmem, hnext.symm⟩

/-- The other arenas are left alone when a handle is issued. -/
theorem Issues.arena?_eq (h : session.Issues threshold place handle next) {other : Nat}
    (hne : other ≠ place) : next.arena? other = session.arena? other := by
  obtain ⟨arena, edit, -, -, -, rfl⟩ := h.exists_arena
  rw [arena?, putArena, Array.getElem?_modify, if_neg (Ne.symm hne)]
  rfl

theorem Issues.arena?_self (h : session.Issues threshold place handle next) :
    ∃ issuer, next.arena? place = some issuer ∧ handle ∈ issuer := by
  obtain ⟨arena, edit, harena, -, hmem, rfl⟩ := h.exists_arena
  refine ⟨(arena.apply edit).2, ?_, hmem⟩
  rw [arena?, putArena, Array.getElem?_modify, if_pos rfl]
  exact congrArg (Option.map _) harena

/-- No arena arrives when a handle is issued: the arrivals are those before and those since then. -/
theorem Issues.exists_commands {past : List Command}
    (h : (session.performAll threshold past).Issues threshold place handle next)
    (later : List Command) :
    ∃ commands, session.performAll threshold commands = next.performAll threshold later ∧
      session.arrivals threshold commands
        = session.arrivals threshold past ++ next.arrivals threshold later := by
  obtain ⟨edit, -, hreply, rfl⟩ := h
  refine ⟨past ++ .edit place edit :: later, performAll_append .., ?_⟩
  rw [arrivals_append, arrivals, hreply]
  rfl

section Issued

variable {past later : List Command} (hstart : session.arenas = #[])
  (hissues : (session.performAll threshold past).Issues threshold place handle next)
  (hfound : (next.performAll threshold later).arena? number = some found)

include hstart hissues hfound

/-- Which arenas contain a handle is a matter of descent and size. -/
theorem mem_iff_sameDescent :
    handle ∈ found ↔
      SameDescent (session.arrivals threshold past ++ next.arrivals threshold later) place number ∧
        handle.index < found.size := by
  obtain ⟨issuer, hissuer, hmem⟩ := hissues.arena?_self
  obtain ⟨edits, hplace⟩ := exists_arena?_performAll threshold later hissuer
  obtain ⟨commands, hcommands, harrivals⟩ := hissues.exists_commands later
  rw [← hcommands] at hfound hplace
  rw [← harrivals, ← tag_eq_iff_sameDescent hstart hplace hfound, Arena.tag_applyAll, ← hmem.1]
  exact Iff.rfl

/-- What descends from the issuing arena has kept the node. -/
theorem isKept_of_descends (hdescends : Descends (next.arrivals threshold later) place number) :
    ∃ issuer, next.arena? place = some issuer ∧ handle ∈ issuer ∧ issuer.IsKept found handle := by
  obtain ⟨issuer, hissuer, hmem⟩ := hissues.arena?_self
  obtain ⟨edits, rfl⟩ := exists_edits_of_descends hissuer hdescends hfound
  obtain ⟨commands, hcommands, -⟩ := hissues.exists_commands []
  rw [performAll_nil] at hcommands
  have hreach : issuer.Reachable := reachable_of_arenas_eq hstart (hcommands ▸ hissuer)
  have hextends := (Arena.applyAll_leads edits issuer).extends
  exact ⟨issuer, hissuer, hmem,
    hextends.isKept hreach.isForest (hreach.applyAll edits).isForest hmem⟩

/-- Any other arena that contains the handle comes from one that had parted from the issuing arena
before. -/
theorem exists_other_of_mem (hmem : handle ∈ found)
    (hdescends : ¬ Descends (next.arrivals threshold later) place number) :
    ∃ other copy edits, other ≠ place ∧
      (session.performAll threshold past).arena? other = some copy ∧
      next.arena? other = some copy ∧
      SameDescent (session.arrivals threshold past) place other ∧
      Descends (next.arrivals threshold later) other number ∧
      found = copy.applyAll edits := by
  obtain ⟨before, edit, hbefore, rfl, -, hnext⟩ := hissues.exists_arena
  have htag : before.tag = found.tag := hmem.1
  have horigin := descends_origin (next.arrivals threshold later) number
  obtain ⟨copy, edits, rfl, hcopy⟩ | ⟨-, hlate⟩ := exists_origin_of_arena? hfound
  · have hne : origin (next.arrivals threshold later) number ≠ place := by
      intro heq
      rw [heq] at horigin
      exact hdescends horigin
    have hold := hcopy
    rw [hissues.arena?_eq hne] at hold
    rw [Arena.tag_applyAll] at htag
    have hsame := (tag_eq_iff_sameDescent hstart hbefore hold).1 htag
    exact ⟨_, copy, edits, hne, hold, hcopy, hsame, horigin, rfl⟩
  · -- the tag of the issuing arena was given out before
    have hlt : before.tag < (session.performAll threshold past).nextTag := by
      refine tag_lt_nextTag threshold past (fun number arena harena => ?_) hbefore
      rw [arena?_of_arenas_eq hstart] at harena
      cases harena
    rw [hnext] at hlate
    exact absurd (htag ▸ hlt) (Nat.not_lt_of_le hlate)

end Issued

/-- **What a handle denotes after copies were made.** Let a session issue a handle for a new node of
one of its arenas, and then go on. An arena contains the handle afterwards just if it is of the same
descent as the issuing one and large enough; otherwise it disowns it. If it descends from the
issuing arena since the handle was issued, it contains the handle and has kept the node. If it does
not, but contains the handle all the same, then it descends from another arena, which had parted
from the issuing one before and was not touched when the handle was issued. -/
theorem issued_handle_denotes_own_or_other (hstart : session.arenas = #[])
    (past later : List Command)
    (hissues : (session.performAll threshold past).Issues threshold place handle next)
    (hfound : (next.performAll threshold later).arena? number = some found) :
    (handle ∈ found ↔
      SameDescent (session.arrivals threshold past ++ next.arrivals threshold later) place number ∧
        handle.index < found.size) ∧
    (handle ∉ found → found.Disowns handle) ∧
    (Descends (next.arrivals threshold later) place number →
      ∃ issuer, next.arena? place = some issuer ∧ handle ∈ issuer ∧
        issuer.IsKept found handle) ∧
    (handle ∈ found → ¬ Descends (next.arrivals threshold later) place number →
      ∃ other copy edits, other ≠ place ∧
        (session.performAll threshold past).arena? other = some copy ∧
        next.arena? other = some copy ∧
        SameDescent (session.arrivals threshold past) place other ∧
        Descends (next.arrivals threshold later) other number ∧
        found = copy.applyAll edits) :=
  ⟨mem_iff_sameDescent hstart hissues hfound, Arena.disowns_of_not_mem,
    isKept_of_descends hstart hissues hfound, exists_other_of_mem hstart hissues hfound⟩

/-- Commands for an empty arena and a copy of it. -/
def twins : List Command := [.create, .copy 0]

/-- Commands by which the copy gets a node of its own, and the first arena is copied once more. -/
def partWays : List Command := [.edit 1 (.add .program), .copy 0]

theorem issued_handle_denotes_own_or_other_twins :
    ∃ (next : Session) (first second third : Arena),
      ((Session.mk 0 #[] #[]).performAll .off twins).Issues .off 0 ⟨0, 0⟩ next ∧
      next.arena? 0 = some first ∧
      (next.performAll .off partWays).arena? 1 = some second ∧
      (next.performAll .off partWays).arena? 2 = some third ∧
      first.IsKept third ⟨0, 0⟩ ∧
      (⟨0, 0⟩ : Handle) ∈ second ∧
      SameDescent
        ((Session.mk 0 #[] #[]).arrivals .off twins ++ next.arrivals .off partWays) 0 1 := by
  obtain ⟨next, hissues, harrivals, ⟨second, hsecond, hmem⟩, third, hthird⟩ : ∃ next : Session,
      ((Session.mk 0 #[] #[]).performAll .off twins).Issues .off 0 ⟨0, 0⟩ next ∧
      next.arrivals .off partWays = [.copied 0 2] ∧
      (∃ second, (next.performAll .off partWays).arena? 1 = some second ∧ ⟨0, 0⟩ ∈ second) ∧
      ∃ third, (next.performAll .off partWays).arena? 2 = some third :=
    ⟨_, ⟨.add .block, trivial, rfl, rfl⟩, rfl, ⟨_, rfl, by decide⟩, ⟨_, rfl⟩⟩
  have hdescends : Descends (next.arrivals .off partWays) 0 2 := by
    rw [harrivals]
    exact Relation.ReflTransGen.single List.mem_cons_self
  obtain ⟨hiff, -⟩ := issued_handle_denotes_own_or_other rfl twins partWays hissues hsecond
  obtain ⟨-, -, hown, -⟩ := issued_handle_denotes_own_or_other rfl twins partWays hissues hthird
  obtain ⟨first, hfirst, -, hkept⟩ := hown hdescends
  exact ⟨next, first, second, third, hissues, hfirst, hsecond, hthird, hkept, hmem,
    (hiff.1 hmem).1⟩

/-- **A handle that was issued to one of two copies may denote another node in the other.** Here the
node that the handle was issued for is a block, and the copy, which was made before and has not been
copied from since, finds its own program under the same handle. -/
theorem issued_handle_denotes_another_node :
    ∃ (next : Session) (first second : Arena),
      ((Session.mk 0 #[] #[]).performAll .off twins).Issues .off 0 ⟨0, 0⟩ next ∧
      next.arena? 0 = some first ∧ first.kind ⟨0, 0⟩ = .ok .block ∧
      (next.performAll .off partWays).arena? 1 = some second ∧
      (⟨0, 0⟩ : Handle) ∈ second ∧ second.kind ⟨0, 0⟩ = .ok .program ∧
      ¬ Descends (next.arrivals .off partWays) 0 1 := by
  refine ⟨_, _, _, ⟨.add .block, trivial, rfl, rfl⟩, rfl, rfl, rfl, by decide, rfl, ?_⟩
  -- the copy traces back to itself
  rw [(inOrder_arrivals .off partWays _).descends_iff Nat.two_pos]
  decide

end Session

end SyntaxOutline
