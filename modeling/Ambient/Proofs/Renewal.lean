import Mathlib.Data.List.Permutation
import Ambient.Proofs.Apart
import Ambient.Proofs.Deeds

namespace Ambient

namespace Cell

/-- Two units that keep the same for a cell in use. -/
structure Alike (r : Cell) (s t : Site) : Prop where
  left : s.isLive r.id
  right : t.isLive r.id
  storage : r.storage s = r.storage t

variable {r : Cell} {s t : Site}

namespace Alike

theorem binding (h : r.Alike s t) : r.binding s = r.binding t := binding_congr h.storage

theorem height (h : r.Alike s t) : (s.stack r.id).length = (t.stack r.id).length :=
  congrArg (·.stack.length) h.storage

theorem single_or_stacked (h : r.Alike s t) :
    r.Single s ∧ r.Single t ∨ r.Stacked s ∧ r.Stacked t := by
  have frame := isSome_frame_congr h.storage
  rcases Cell.single_or_stacked h.left with single | stacked
  · refine .inl ⟨single, h.right, fun hs => ?_⟩
    rw [← frame]
    exact single.framed hs
  · refine .inr ⟨stacked, h.right, stacked.taskLocal, ?_⟩
    rw [stacked.unframed] at frame
    simpa using frame.symm

theorem changeStack (h : r.Alike s t) (f : List Context → List Context) :
    r.Alike (s.changeStack r.id f) (t.changeStack r.id f) := by
  refine ⟨h.left, h.right, ?_⟩
  rw [storage_changeStack h.left, storage_changeStack h.right, h.storage]

theorem restore (h : r.Alike s t) (c : Option Context) :
    r.Alike (r.restore c s) (r.restore c t) := by
  rcases h.single_or_stacked with ⟨single, single'⟩ | ⟨stacked, stacked'⟩
  · refine ⟨(single.restore c).live, (single'.restore c).live, ?_⟩
    rw [single.storage_restore, single'.storage_restore, h.storage]
  · rw [stacked.restore_eq, stacked'.restore_eq]
    exact h.changeStack _

theorem set (h : r.Alike s t) (c : Context) : r.Alike (r.set c s) (r.set c t) := by
  rcases h.single_or_stacked with ⟨single, single'⟩ | ⟨stacked, stacked'⟩
  · rw [single.set_eq, single'.set_eq]
    exact h.restore _
  · rw [stacked.set_eq, stacked'.set_eq]
    exact h.changeStack _

theorem remove (h : r.Alike s t) : r.Alike (r.remove s) (r.remove t) := by
  rcases h.single_or_stacked with ⟨single, single'⟩ | ⟨stacked, stacked'⟩
  · rw [single.remove_eq, single'.remove_eq]
    exact h.restore _
  · rw [stacked.remove_eq, stacked'.remove_eq]
    exact h.changeStack _

theorem token_attach (h : r.Alike s t) (c : Context) : (r.attach c s).1 = (r.attach c t).1 := by
  rcases h.single_or_stacked with ⟨single, single'⟩ | ⟨stacked, stacked'⟩
  · rw [single.attach_eq, single'.attach_eq, h.binding]
  · rw [stacked.attach_eq, stacked'.attach_eq, h.binding, h.height]

theorem detach (h : r.Alike s t) (k : Token) : r.Alike (r.detach k s) (r.detach k t) := by
  by_cases issued : k.issuer = r.id
  · rcases h.single_or_stacked with ⟨single, single'⟩ | ⟨stacked, stacked'⟩
    · cases hk : k.depth with
      | none =>
        rw [single.detach_eq ⟨issued, hk⟩, single'.detach_eq ⟨issued, hk⟩]
        exact h.restore _
      | some depth =>
        -- Inside a task this cuts the stack of the thread below.
        simp only [Cell.detach, issued, hk, ne_eq, not_true_eq_false, if_false]
        cases r.strategy with
        | threadLocal => exact h.restore _
        | taskLocal => exact h.changeStack _
    · cases hk : k.depth with
      | none =>
        simp only [Cell.detach, hk, stacked.taskLocal, stacked.unframed, stacked'.unframed]
        simpa using h
      | some depth =>
        rw [stacked.detach_eq issued hk, stacked'.detach_eq issued hk]
        exact h.changeStack _
  · rw [detach_of_ne issued, detach_of_ne issued]
    exact h

theorem act (h : r.Alike s t) (tokens : List (Option (Nat × Token))) (d : Deed) :
    r.Alike (d.act r tokens s) (d.act r tokens t) := by
  cases d with
  | set c | attach c => exact h.set c
  | remove => exact h.remove
  | restore c => exact h.restore c
  | fork c | retire => exact h
  | detach j =>
    rw [Deed.act, Deed.act]
    split
    next => exact h.detach _
    next => exact h

theorem exchange (h : r.Alike s t) (i : Nat) (tokens : List (Option (Nat × Token))) (d : Deed) :
    d.exchange i r s tokens = d.exchange i r t tokens := by
  cases d with
  | attach c => rw [Deed.exchange, Deed.exchange, h.token_attach]
  | set c | remove | restore c | detach j | fork c | retire => rfl

end Alike

theorem alike_restore_binding (live : s.isLive r.id)
    (low : r.Single s ∨ (s.stack r.id).length ≤ 1) : r.Alike s (r.restore (r.binding s) s) := by
  have live' : (r.restore (r.binding s) s).isLive r.id := by
    rw [Site.isLive, registry_restore]
    exact live
  refine ⟨live, live', ?_⟩
  rcases Cell.single_or_stacked live with single | stacked
  · rw [single.storage_restore, single.put_binding]
  · have short := low.resolve_left stacked.not_single
    have whole : (r.binding s).toList = s.stack r.id := by
      rw [stacked.binding_eq, ← List.take_one, List.take_of_length_le short]
    rw [stacked.restore_eq, stacked.storage_changeStack, whole]
    rfl

/-- The second stack lacks the lower part of the first, but not its top. -/
structure Cropped (r : Cell) (below : List Context) (s t : Site) : Prop where
  left : r.Stacked s
  right : r.Stacked t
  top : t.stack r.id ≠ []
  stack : s.stack r.id = t.stack r.id ++ below

/-- The first token was issued on a stack that was higher than that of the second by so much. -/
structure Raised (r : Cell) (height : Nat) (k k' : Token) : Prop where
  issuer : k.issuer = r.id
  issuer' : k'.issuer = r.id
  depth : ∃ depth, 0 < depth ∧ k'.depth = some depth ∧ k.depth = some (depth + height)

namespace Cropped

variable {below : List Context}

theorem binding (h : r.Cropped below s t) : r.binding s = r.binding t := by
  obtain ⟨c, above, ht⟩ := List.exists_cons_of_ne_nil h.top
  rw [h.left.binding_eq, h.right.binding_eq, h.stack, ht]
  rfl

theorem push (h : r.Cropped below s t) (c : Context) :
    r.Cropped below (s.changeStack r.id (c :: ·)) (t.changeStack r.id (c :: ·)) := by
  refine ⟨h.left.changeStack _, h.right.changeStack _, ?_, ?_⟩
  · rw [h.right.stack_changeStack]
    exact List.cons_ne_nil _ _
  · rw [h.left.stack_changeStack, h.right.stack_changeStack, h.stack, List.cons_append]

theorem pop (h : r.Cropped below s t) (high : below.length + 1 < (s.stack r.id).length) :
    r.Cropped below (s.changeStack r.id List.tail) (t.changeStack r.id List.tail) := by
  rw [h.stack, List.length_append] at high
  refine ⟨h.left.changeStack _, h.right.changeStack _, ?_, ?_⟩
  · rw [h.right.stack_changeStack]
    intro empty
    have short := congrArg List.length empty
    rw [List.length_tail, List.length_nil] at short
    omega
  · rw [h.left.stack_changeStack, h.right.stack_changeStack, h.stack, List.tail_append_of_ne_nil h.top]

theorem detach (h : r.Cropped below s t) {k k' : Token} (raised : r.Raised below.length k k') :
    r.Cropped below (r.detach k s) (r.detach k' t) := by
  obtain ⟨depth, deep, hk', hk⟩ := raised.depth
  rw [h.left.detach_eq raised.issuer hk, h.right.detach_eq raised.issuer' hk']
  refine ⟨h.left.changeStack _, h.right.changeStack _, ?_, ?_⟩
  · rw [h.right.stack_changeStack]
    apply List.ne_nil_of_length_pos
    rw [length_cutTo]
    exact Nat.lt_min.2 ⟨deep, List.length_pos_iff.2 h.top⟩
  · rw [h.left.stack_changeStack, h.right.stack_changeStack, h.stack,
      cutTo_append_of_le (Nat.le_add_left _ _), Nat.add_sub_cancel]

theorem raised_attach (h : r.Cropped below s t) (c : Context) :
    r.Raised below.length (r.attach c s).1 (r.attach c t).1 := by
  rw [h.left.attach_eq, h.right.attach_eq]
  refine ⟨rfl, rfl, _, List.length_pos_iff.2 h.top, rfl, ?_⟩
  simp only [h.stack, List.length_append]

end Cropped

end Cell

/-- Sets and attaches, hands back tokens from number `n` on, and removes what stands above a height of
the stack. -/
def Deed.KeepsHeight (r : Cell) (u : Post) (height n : Nat) (w : Commons) : Deed → Prop
  | .set _ | .attach _ => True
  | .remove => ∀ s, w.site? u = some s → height < (s.stack r.id).length
  | .detach j => n ≤ j
  | _ => False

theorem Deed.KeepsHeight.ordinary {r : Cell} {u : Post} {height n : Nat} {w : Commons} {d : Deed}
    (h : d.KeepsHeight r u height n w) : d.Ordinary := by
  cases d with
  | set c | remove | attach c | detach j => trivial
  | restore c | fork c | retire => exact h.elim

namespace Commons

def ReadsSame (r : Cell) (u : Post) (w w' : Commons) : Prop :=
  ∃ s t, w.site? u = some s ∧ w'.site? u = some t ∧ r.binding s = r.binding t ∧
    r.current s = r.current t

def KeepHeight (i : Nat) (r : Cell) (u : Post) (height n : Nat) : List Deed → Commons → Prop
  | [], _ => True
  | d :: deeds, w => d.KeepsHeight r u height n w ∧
    KeepHeight i r u height n deeds (w.step (.deed i u d))

/-- The unit keeps the same in two processes, and the tokens are the same. -/
structure Twins (i : Nat) (r : Cell) (u : Post) (w w' : Commons) : Prop where
  left : w.Holds i r
  right : w'.Holds i r
  tokens : w.tokens = w'.tokens
  site : ∃ s t, w.site? u = some s ∧ w'.site? u = some t ∧ r.Alike s t

/-- The stack of the unit lacks its lower part in the second process. The tokens from number `n` on
were issued since. -/
structure Shortened (i : Nat) (r : Cell) (u : Post) (below : List Context) (n : Nat)
    (w w' : Commons) : Prop where
  left : w.Holds i r
  right : w'.Holds i r
  site : ∃ s t, w.site? u = some s ∧ w'.site? u = some t ∧ r.Cropped below s t
  count : w.tokens.length = w'.tokens.length
  token {j : Nat} : n ≤ j → Option.Rel (Option.Rel fun x y => r.Raised below.length x.2 y.2)
    w.tokens[j]? w'.tokens[j]?

variable {w w' : Commons} {i n : Nat} {r : Cell} {u : Post} {s t : Site} {d : Deed}
  {deeds : List Deed} {below : List Context}

theorem ReadsSame.of_binding (hu : w.site? u = some s) (hu' : w'.site? u = some t)
    (same : r.binding s = r.binding t) : ReadsSame r u w w' :=
  ⟨s, t, hu, hu', same, congrArg (·.getD ∅) same⟩

namespace Twins

theorem step (h : Twins i r u w w') (ordinary : d.Ordinary) :
    Twins i r u (w.step (.deed i u d)) (w'.step (.deed i u d)) := by
  obtain ⟨s, t, hu, hu', alike⟩ := h.site
  refine ⟨h.left.deed hu ordinary, h.right.deed hu' ordinary, ?_, _, _,
    site?_deed h.left hu ordinary, site?_deed h.right hu' ordinary, ?_⟩
  · rw [tokens_deed h.left hu, tokens_deed h.right hu', h.tokens]
    exact alike.exchange i _ d
  · rw [h.tokens]
    exact alike.act _ d

theorem does (h : Twins i r u w w') (ordinary : ∀ d ∈ deeds, d.Ordinary) :
    Twins i r u (w.does i u deeds) (w'.does i u deeds) := by
  induction deeds generalizing w w' with
  | nil => exact h
  | cons d deeds ih =>
    simp only [List.mem_cons, forall_eq_or_imp] at ordinary
    exact ih (h.step ordinary.1) ordinary.2

theorem readsSame (h : Twins i r u w w') : ReadsSame r u w w' := by
  obtain ⟨s, t, hu, hu', alike⟩ := h.site
  exact .of_binding hu hu' alike.binding

end Twins

namespace Shortened

theorem cropped_act (h : Shortened i r u below n w w') (hu : w.site? u = some s)
    (cropped : r.Cropped below s t) (keeps : d.KeepsHeight r u (below.length + 1) n w) :
    r.Cropped below (d.act r w.tokens s) (d.act r w'.tokens t) := by
  cases d with
  | set c =>
    rw [Deed.act, Deed.act, cropped.left.set_eq, cropped.right.set_eq]
    exact cropped.push c
  | attach c =>
    rw [Deed.act, Deed.act, cropped.left.attach_eq, cropped.right.attach_eq]
    exact cropped.push c
  | remove =>
    rw [Deed.act, Deed.act, cropped.left.remove_eq, cropped.right.remove_eq]
    exact cropped.pop (keeps s hu)
  | restore c | fork c | retire => exact keeps.elim
  | detach j =>
    have related := h.token keeps
    rw [Deed.act, Deed.act]
    generalize w.tokens[j]? = x at related ⊢
    generalize w'.tokens[j]? = y at related ⊢
    cases related with
    | none => exact cropped
    | some related =>
      cases related with
      | none => exact cropped
      | some raised => exact cropped.detach raised

theorem token_exchange (h : Shortened i r u below n w w') (cropped : r.Cropped below s t)
    {j : Nat} (hj : n ≤ j) (d : Deed) :
    Option.Rel (Option.Rel fun x y => r.Raised below.length x.2 y.2)
      (d.exchange i r s w.tokens)[j]? (d.exchange i r t w'.tokens)[j]? := by
  cases d with
  | set c | remove | restore c | fork c | retire => exact h.token hj
  | attach c =>
    rw [Deed.exchange, Deed.exchange, List.getElem?_append, List.getElem?_append, h.count]
    split
    next => exact h.token hj
    next =>
      cases j - w'.tokens.length with
      | zero => exact .some (.some (cropped.raised_attach c))
      | succ later => exact .none
  | detach k =>
    rw [Deed.exchange, Deed.exchange, List.getElem?_set, List.getElem?_set, h.count]
    split
    next =>
      split
      next => exact .some .none
      next => exact .none
    next => exact h.token hj

theorem step (h : Shortened i r u below n w w')
    (keeps : d.KeepsHeight r u (below.length + 1) n w) :
    Shortened i r u below n (w.step (.deed i u d)) (w'.step (.deed i u d)) := by
  obtain ⟨s, t, hu, hu', cropped⟩ := h.site
  have ordinary := keeps.ordinary
  refine ⟨h.left.deed hu ordinary, h.right.deed hu' ordinary, ⟨_, _,
    site?_deed h.left hu ordinary, site?_deed h.right hu' ordinary, h.cropped_act hu cropped keeps⟩,
    ?_, fun hj => ?_⟩
  · rw [tokens_deed h.left hu, tokens_deed h.right hu']
    exact Deed.length_exchange i d h.count
  · rw [tokens_deed h.left hu, tokens_deed h.right hu']
    exact h.token_exchange cropped hj d

theorem does (h : Shortened i r u below n w w')
    (keeps : w.KeepHeight i r u (below.length + 1) n deeds) :
    Shortened i r u below n (w.does i u deeds) (w'.does i u deeds) := by
  induction deeds generalizing w w' with
  | nil => exact h
  | cons d deeds ih => exact ih (h.step keeps.1) keeps.2

theorem readsSame (h : Shortened i r u below n w w') : ReadsSame r u w w' := by
  obtain ⟨s, t, hu, hu', cropped⟩ := h.site
  exact .of_binding hu hu' cropped.binding

end Shortened

theorem KeepHeight.ordinary {height : Nat} (h : w.KeepHeight i r u height n deeds) :
    ∀ d ∈ deeds, d.Ordinary := by
  induction deeds generalizing w with
  | nil => simp
  | cons d deeds ih =>
    rw [List.forall_mem_cons]
    exact ⟨h.1.ordinary, ih h.2⟩

theorem twins_renewed (holds : w.Holds i r) (hu : w.site? u = some s)
    (low : r.Single s ∨ (s.stack r.id).length ≤ 1) :
    Twins i r u w (w.step (.deed i u (.restore (r.binding s)))) := by
  have tokens : (w.step (.deed i u (.restore (r.binding s)))).tokens = w.tokens :=
    tokens_deed holds hu _
  refine ⟨holds, holds.deed hu trivial, tokens.symm, s, _, hu, site?_deed holds hu trivial, ?_⟩
  exact Cell.alike_restore_binding (holds.isLive hu) low

theorem shortened_renewed (holds : w.Holds i r) (hu : w.site? u = some s)
    (stacked : r.Stacked s) {top : Context} (stack : s.stack r.id = top :: below) :
    Shortened i r u below w.tokens.length w (w.step (.deed i u (.restore (r.binding s)))) := by
  have tokens : (w.step (.deed i u (.restore (r.binding s)))).tokens = w.tokens :=
    tokens_deed holds hu _
  have left : (r.restore (r.binding s) s).stack r.id = [top] := by
    rw [stacked.restore_eq, stacked.stack_changeStack, stacked.binding_eq, stack]
    rfl
  refine ⟨holds, holds.deed hu trivial, ⟨s, _, hu, site?_deed holds hu trivial, stacked, ?_, ?_, ?_⟩,
    congrArg List.length tokens.symm, fun hj => ?_⟩
  · rw [Deed.act, stacked.restore_eq]
    exact stacked.changeStack _
  · rw [Deed.act, left]
    exact List.cons_ne_nil _ _
  · rw [Deed.act, left, stack]
    rfl
  · rw [tokens, List.getElem?_eq_none hj]
    exact .none

theorem binding_removed (holds : w.Holds i r) (hu : w.site? u = some s) (stacked : r.Stacked s) :
    ((w.does i u [.remove]).site? u).map r.binding = some (s.stack r.id).tail.head? := by
  rw [does_cons, does_nil, site?_deed (d := .remove) holds hu trivial, Option.map_some, Deed.act,
    stacked.binding_remove]

theorem low_of_readsSame_remove (holds : w.Holds i r) (hu : w.site? u = some s)
    (same : ReadsSame r u (w.does i u [.remove])
      ((w.step (.deed i u (.restore (r.binding s)))).does i u [.remove])) :
    r.Single s ∨ (s.stack r.id).length ≤ 1 := by
  rcases Cell.single_or_stacked (holds.isLive hu) with single | stacked
  · exact .inl single
  obtain ⟨t, t', ht, ht', alike, -⟩ := same
  have replaced : r.Stacked (r.restore (r.binding s) s) := by
    rw [stacked.restore_eq]
    exact stacked.changeStack _
  have below := binding_removed holds hu stacked
  have gone := binding_removed (holds.deed (d := .restore (r.binding s)) hu trivial)
    (site?_deed holds hu trivial) replaced
  rw [ht, Option.map_some, alike] at below
  rw [ht', Option.map_some, Deed.act, stacked.restore_eq, stacked.stack_changeStack,
    stacked.binding_eq, below] at gone
  right
  cases hs : s.stack r.id with
  | nil => exact Nat.zero_le 1
  | cons top below =>
    cases below with
    | nil => exact Nat.le_refl 1
    | cons c below => simp [hs] at gone

/-- A unit that restores what it has just found can go on with any work as if it had not, and with
its tokens as well, if and only if it keeps a single binding or a stack of at most one context. From a
higher stack the top is left, and as long as that is not removed, and only tokens that were issued
since are handed back, nothing shows. -/
theorem renewal_unseen_iff (holds : w.Holds i r) (hu : w.site? u = some s) :
    let w' := w.step (.deed i u (.restore (r.binding s)))
    ((∀ deeds : List Deed, (∀ d ∈ deeds, d.Ordinary) →
        ReadsSame r u (w.does i u deeds) (w'.does i u deeds)) ↔
      r.Single s ∨ (s.stack r.id).length ≤ 1) ∧
      ∀ deeds, w.KeepHeight i r u (s.stack r.id).length w.tokens.length deeds →
        ReadsSame r u (w.does i u deeds) (w'.does i u deeds) := by
  intro w'
  have unseen (low : r.Single s ∨ (s.stack r.id).length ≤ 1) (deeds : List Deed)
      (ordinary : ∀ d ∈ deeds, d.Ordinary) :
      ReadsSame r u (w.does i u deeds) (w'.does i u deeds) :=
    ((twins_renewed holds hu low).does ordinary).readsSame
  refine ⟨⟨fun all => ?_, unseen⟩, fun deeds keeps => ?_⟩
  · exact low_of_readsSame_remove holds hu (all [.remove] (by simp [Deed.Ordinary]))
  · rcases Cell.single_or_stacked (holds.isLive hu) with single | stacked
    · exact unseen (.inl single) deeds keeps.ordinary
    · cases stack : s.stack r.id with
      | nil => exact unseen (.inr (by simp [stack])) deeds keeps.ordinary
      | cons top below =>
        rw [stack] at keeps
        exact ((shortened_renewed holds hu stacked stack).does keeps).readsSame

/-- Once inside a task that still has to hand back a token, and once on a stack of two contexts, above
which another is attached and taken off again. -/
theorem renewal_unseen_iff_of_open_token :
    let r : Cell := ⟨0, .taskLocal⟩
    let mark : Context := (∅ : Context).withShared "mark" ⟨0, ⟨.unit, ()⟩⟩
    let u : Post := ⟨0, none⟩
    let w := (start.step (.make .taskLocal)).does 0 u [.set ∅, .set mark]
    let s : Site := ⟨w.registry, w.threads 0, none⟩
    let v : Post := ⟨0, some 0⟩
    let x := (w.step (.deed 0 u (.fork none))).step (.deed 0 v (.attach ∅))
    let t : Site := ⟨x.registry, x.threads 0, x.frames[0]?⟩
    w.Holds 0 r ∧ w.site? u = some s ∧ r.binding s = some mark ∧
      ReadsSame r u (w.does 0 u [.attach ∅, .detach 0])
        ((w.step (.deed 0 u (.restore (r.binding s)))).does 0 u [.attach ∅, .detach 0]) ∧
      x.Holds 0 r ∧ x.site? v = some t ∧ r.binding t = some ∅ ∧
      ReadsSame r v (x.does 0 v [.remove, .detach 0])
        ((x.step (.deed 0 v (.restore (r.binding t)))).does 0 v [.remove, .detach 0]) := by
  intro r mark u w s v x t
  have holds : w.Holds 0 r := ⟨by cbv, by cbv⟩
  have none_yet : w.tokens.length = 0 := by cbv
  have keeps : w.KeepHeight 0 r u (s.stack r.id).length w.tokens.length [.attach ∅, .detach 0] :=
    ⟨trivial, Nat.le_of_eq none_yet, trivial⟩
  have holds' : x.Holds 0 r := ⟨by cbv, by cbv⟩
  have framed : t.frame.isSome := by cbv
  have inside : x.site? v = some t := by
    obtain ⟨frame, hf⟩ := Option.isSome_iff_exists.1 framed
    have ht : t = ⟨x.registry, x.threads 0, some frame⟩ := congrArg (Site.mk _ _) hf
    rw [ht]
    exact site?_of_frame hf
  have single : r.Single t := ⟨holds'.2, fun _ => framed⟩
  have shown : r.binding s = some mark := by cbv
  have shown' : r.binding t = some ∅ := by cbv
  refine ⟨holds, rfl, shown, (renewal_unseen_iff holds rfl).2 _ keeps, holds', inside, shown', ?_⟩
  exact (renewal_unseen_iff holds' inside).1.2 (.inl single) _ (by simp [Deed.Ordinary])

/-- A removal brings to light what was below the top, unless the top was restored before. -/
theorem renewal_seen_by_remove :
    let r : Cell := ⟨0, .taskLocal⟩
    let mark : Context := (∅ : Context).withShared "mark" ⟨0, ⟨.unit, ()⟩⟩
    let u : Post := ⟨0, none⟩
    let w := (start.step (.make .taskLocal)).does 0 u [.set ∅, .set mark]
    let s : Site := ⟨w.registry, w.threads 0, none⟩
    let w' := w.step (.deed 0 u (.restore (r.binding s)))
    let s' : Site := ⟨w'.registry, w'.threads 0, none⟩
    w.site? u = some s ∧ w'.site? u = some s' ∧ ReadsSame r u w w' ∧
      ((w.does 0 u [.remove]).site? u).map r.binding = some (some ∅) ∧
      ((w'.does 0 u [.remove]).site? u).map r.binding = some none ∧
      ¬ ReadsSame r u (w.does 0 u [.remove]) (w'.does 0 u [.remove]) := by
  intro r mark u w s w' s'
  have holds : w.Holds 0 r := ⟨by cbv, by cbv⟩
  have holds' : w'.Holds 0 r := ⟨by cbv, by cbv⟩
  have same : ReadsSame r u w w' := .of_binding rfl rfl (by cbv)
  have high : s.stack r.id = [mark, ∅] := by cbv
  have low : s'.stack r.id = [mark] := by cbv
  have below : ((w.does 0 u [.remove]).site? u).map r.binding = some (some ∅) := by
    rw [binding_removed (s := s) holds rfl ⟨holds.2, rfl, rfl⟩, high]
    rfl
  have gone : ((w'.does 0 u [.remove]).site? u).map r.binding = some none := by
    rw [binding_removed (s := s') holds' rfl ⟨holds'.2, rfl, rfl⟩, low]
    rfl
  refine ⟨rfl, rfl, same, below, gone, ?_⟩
  rintro ⟨t, t', ht, ht', alike, -⟩
  rw [ht, Option.map_some] at below
  rw [ht', Option.map_some] at gone
  rw [Option.some.inj below, Option.some.inj gone] at alike
  cases alike

end Commons
end Ambient
