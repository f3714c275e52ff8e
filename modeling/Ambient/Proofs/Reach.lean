import Mathlib.Algebra.Order.Group.Multiset
import Mathlib.Data.Multiset.Filter
import Mathlib.Tactic.Abel
import Ambient.Proofs.Commons
import Ambient.Shell

namespace Ambient

/-- What a process has besides the unit at work. A token is there until it is handed back, a frame
as long as its task, and a cell as often as something keeps it in use. -/
inductive Item where
  | token (k : Token)
  | frame (b : Bindings)
  | thread (t : Thread)
  | cell (r : Cell)

namespace Item

def token? : Item → Option Token
  | .token k => some k
  | _ => none

def frame? : Item → Option Bindings
  | .frame b => some b
  | _ => none

def thread? : Item → Option Thread
  | .thread t => some t
  | _ => none

end Item

abbrev Stock := Multiset Item

namespace Stock

def tokens (x : Stock) : Multiset Token := x.filterMap Item.token?

def frames (x : Stock) : Multiset Bindings := x.filterMap Item.frame?

def threads (x : Stock) : Multiset Thread := x.filterMap Item.thread?

def ofFrame : Option Bindings → Stock
  | none => 0
  | some b => {.frame b}

def ofToken : Option Token → Stock
  | none => 0
  | some k => {.token k}

theorem tokens_add (x y : Stock) : tokens (x + y) = tokens x + tokens y :=
  Multiset.filterMap_add _ x y

theorem frames_add (x y : Stock) : frames (x + y) = frames x + frames y :=
  Multiset.filterMap_add _ x y

theorem threads_add (x y : Stock) : threads (x + y) = threads x + threads y :=
  Multiset.filterMap_add _ x y

theorem tokens_cons (i : Item) (x : Stock) :
    tokens (i ::ₘ x) = i.token?.elim (tokens x) (· ::ₘ tokens x) := by
  cases h : i.token? with
  | none => exact Multiset.filterMap_cons_none _ _ h
  | some k => exact Multiset.filterMap_cons_some _ _ _ h

theorem frames_cons (i : Item) (x : Stock) :
    frames (i ::ₘ x) = i.frame?.elim (frames x) (· ::ₘ frames x) := by
  cases h : i.frame? with
  | none => exact Multiset.filterMap_cons_none _ _ h
  | some b => exact Multiset.filterMap_cons_some _ _ _ h

theorem threads_cons (i : Item) (x : Stock) :
    threads (i ::ₘ x) = i.thread?.elim (threads x) (· ::ₘ threads x) := by
  cases h : i.thread? with
  | none => exact Multiset.filterMap_cons_none _ _ h
  | some t => exact Multiset.filterMap_cons_some _ _ _ h

end Stock

/-- What a task has between two polls. A context that it carries is in no place. -/
def Shell.stock : Shell → Stock
  | .framed b => {.frame b}
  | .carried _ _ => 0

/-- What is left where a task is polled. -/
def Visit.stock : Visit → Stock
  | .host frame => Stock.ofFrame frame
  | .guarded g => Stock.ofToken g.token

def Site.stock (s : Site) : Stock := .thread s.thread ::ₘ Stock.ofFrame s.frame

namespace Site

variable {s : Site} {x : Stock}

theorem tokens_stock : (s.stock + x).tokens = x.tokens := by
  obtain ⟨registry, thread, frame⟩ := s
  rw [Stock.tokens_add]
  cases frame with
  | none => exact Multiset.zero_add _
  | some b => exact Multiset.zero_add _

theorem threads_stock : (s.stock + x).threads = s.thread ::ₘ x.threads := by
  obtain ⟨registry, thread, frame⟩ := s
  rw [Stock.threads_add]
  cases frame with
  | none => exact Multiset.singleton_add thread _
  | some b => exact Multiset.singleton_add thread _

theorem frames_stock_of_none (hf : s.frame = none) : (s.stock + x).frames = x.frames := by
  rw [Stock.frames_add, stock, hf]
  exact Multiset.zero_add _

theorem frames_stock_of_some {b : Bindings} (hf : s.frame = some b) :
    (s.stock + x).frames = b ::ₘ x.frames := by
  rw [Stock.frames_add, stock, hf]
  exact Multiset.singleton_add b _

theorem mem_stock {r : Cell} : .cell r ∈ s.stock + x ↔ .cell r ∈ x := by
  obtain ⟨registry, thread, frame⟩ := s
  cases frame with
  | none => simp [stock, Stock.ofFrame]
  | some b => simp [stock, Stock.ofFrame]

end Site

namespace Commons

/-- The process has these items, each in a place of its own. Threads of high numbers are fresh. -/
structure Stores (w : Commons) (x : Stock) : Prop where
  threads : ∃ n, x.threads ≤ (List.range n).map w.threads ∧ ∀ m, n ≤ m → w.threads m = .fresh
  frames : x.frames ≤ w.frames
  tokens : (x.tokens.map fun k => some (k.issuer, k)) ≤ w.tokens
  cells : ∀ r, .cell r ∈ x → w.Holds r.id r

theorem exists_place {α : Type} {a : α} {xs : Multiset α} {l : List α} (h : a ::ₘ xs ≤ l) :
    ∃ i, l[i]? = some a ∧ ∀ b, b ::ₘ xs ≤ l.set i b := by
  have inside : a ∈ (l : Multiset α) := Multiset.mem_of_le h (Multiset.mem_cons_self a xs)
  obtain ⟨before, after, rfl⟩ := List.append_of_mem (Multiset.mem_coe.1 inside)
  have around (b : α) : ((before ++ b :: after : List α) : Multiset α) =
      b ::ₘ ((before ++ after : List α) : Multiset α) :=
    Multiset.coe_eq_coe.2 List.perm_middle
  rw [around, Multiset.cons_le_cons_iff] at h
  refine ⟨before.length, by simp, fun b => ?_⟩
  rw [List.set_append_right _ _ (Nat.le_refl _), Nat.sub_self, List.set_cons_zero, around]
  exact Multiset.cons_le_cons b h

variable {w : Commons} {s t : Site} {x y : Stock}

theorem map_range_set (f : Nat → Thread) (n i : Nat) (t : Thread) :
    ((List.range n).map fun m => if m = i then t else f m) = ((List.range n).map f).set i t := by
  apply List.ext_getElem?
  intro j
  simp only [List.getElem?_map, List.getElem?_set, List.length_map, List.length_range]
  by_cases same : i = j
  · subst same
    by_cases inside : i < n <;> simp [inside]
  · by_cases inside : j < n <;> simp [inside, same, Ne.symm same]

/-- Some unit is where the site is, and where it goes on from there everything else stays. -/
theorem Stores.exists_post (h : w.Stores (s.stock + x)) (same : s.registry = w.registry) :
    ∃ u, w.site? u = some s ∧ ∀ t : Site, t.frame.isSome = s.frame.isSome →
      (∀ r, .cell r ∈ x → t.isLive r.id) → (w.put u t).Stores (t.stock + x) := by
  obtain ⟨⟨n, within, fresh⟩, frames, tokens, cells⟩ := h
  rw [Site.threads_stock] at within
  rw [Site.tokens_stock] at tokens
  obtain ⟨i, hi, threads⟩ := exists_place within
  obtain ⟨inside, found⟩ := List.getElem?_eq_some_iff.1 hi
  rw [List.length_map, List.length_range] at inside
  rw [List.getElem_map, List.getElem_range] at found
  have put (u : Post) (hu : u.thread = i) (t : Site) (live : ∀ r, .cell r ∈ x → t.isLive r.id)
      (framed : (t.stock + x).frames ≤ (w.put u t).frames) : (w.put u t).Stores (t.stock + x) := by
    refine ⟨⟨n, ?_, fun m high => ?_⟩, framed, ?_, fun r hr => ?_⟩
    · rw [Site.threads_stock]
      have written := threads t.thread
      rw [← map_range_set] at written
      simpa only [Commons.put, hu] using written
    · have other : m ≠ u.thread := by omega
      simp only [Commons.put, if_neg other]
      exact fresh m high
    · rw [Site.tokens_stock]
      exact tokens
    · have kept := Site.mem_stock.1 hr
      exact ⟨(cells r (Site.mem_stock.2 kept)).1, live r kept⟩
  cases hf : s.frame with
  | none =>
    rw [Site.frames_stock_of_none hf] at frames
    refine ⟨⟨i, none⟩, ?_, fun t framed live => put ⟨i, none⟩ rfl t live ?_⟩
    · simp only [site?, found, ← same, ← hf]
    · have unframed : t.frame = none := by simpa using framed
      rw [Site.frames_stock_of_none unframed]
      exact frames
  | some b =>
    rw [Site.frames_stock_of_some hf] at frames
    obtain ⟨k, hk, frames'⟩ := exists_place frames
    refine ⟨⟨i, some k⟩, ?_, fun t framed live => put ⟨i, some k⟩ rfl t live ?_⟩
    · rw [site?_of_frame hk, found, ← same, ← hf]
    · obtain ⟨b', hb⟩ := Option.isSome_iff_exists.1 framed
      rw [Site.frames_stock_of_some hb]
      simp only [Commons.put, hb]
      exact frames' b'

theorem Stores.le (h : w.Stores y) (le : x ≤ y) : w.Stores x := by
  obtain ⟨⟨n, threads, fresh⟩, frames, tokens, cells⟩ := h
  refine ⟨⟨n, ?_, fresh⟩, ?_, ?_, fun r hr => cells r (Multiset.mem_of_le le hr)⟩
  · exact le_trans (Multiset.filterMap_le_filterMap _ le) threads
  · exact le_trans (Multiset.filterMap_le_filterMap _ le) frames
  · exact le_trans (Multiset.map_le_map (Multiset.filterMap_le_filterMap _ le)) tokens

theorem Stores.issue (h : w.Stores x) (k : Token) :
    Stores { w with tokens := w.tokens ++ [some (k.issuer, k)] } (.token k ::ₘ x) := by
  obtain ⟨threads, frames, tokens, cells⟩ := h
  have grown : ((w.tokens ++ [some (k.issuer, k)] : List _) : Multiset _) =
      some (k.issuer, k) ::ₘ (w.tokens : Multiset _) :=
    Multiset.coe_eq_coe.2 (List.perm_append_singleton _ _)
  refine ⟨?_, ?_, ?_, fun r hr => cells r (by simpa using hr)⟩
  · rw [Stock.threads_cons]
    exact threads
  · rw [Stock.frames_cons]
    exact frames
  · rw [Stock.tokens_cons, grown]
    exact (Multiset.map_cons _ _ _).trans_le (Multiset.cons_le_cons _ tokens)

theorem Stores.spend {k : Token} (h : w.Stores (.token k ::ₘ x)) :
    ∃ j, w.tokens[j]? = some (some (k.issuer, k)) ∧
      Stores { w with tokens := w.tokens.set j none } x := by
  obtain ⟨threads, frames, tokens, cells⟩ := h
  rw [Stock.threads_cons] at threads
  rw [Stock.frames_cons] at frames
  rw [Stock.tokens_cons] at tokens
  obtain ⟨j, hj, left⟩ := exists_place ((Multiset.map_cons _ _ _).symm.trans_le tokens)
  refine ⟨j, hj, threads, frames, ?_, fun r hr => cells r (Multiset.mem_cons_of_mem hr)⟩
  exact le_trans (Multiset.le_cons_self _ none) (left none)

theorem Stores.begin (h : w.Stores x) (b : Bindings) :
    Stores { w with frames := w.frames ++ [b] } (.frame b ::ₘ x) := by
  obtain ⟨threads, frames, tokens, cells⟩ := h
  have grown : ((w.frames ++ [b] : List _) : Multiset _) = b ::ₘ (w.frames : Multiset _) :=
    Multiset.coe_eq_coe.2 (List.perm_append_singleton _ _)
  refine ⟨?_, ?_, ?_, fun r hr => cells r (by simpa using hr)⟩
  · rw [Stock.threads_cons]
    exact threads
  · rw [Stock.frames_cons, grown]
    exact Multiset.cons_le_cons _ frames
  · rw [Stock.tokens_cons]
    exact tokens

theorem Stores.cell (h : w.Stores x) {r : Cell} (holds : w.Holds r.id r) :
    w.Stores (.cell r ::ₘ x) := by
  obtain ⟨threads, frames, tokens, cells⟩ := h
  refine ⟨?_, ?_, ?_, fun q hq => ?_⟩
  · rw [Stock.threads_cons]
    exact threads
  · rw [Stock.frames_cons]
    exact frames
  · rw [Stock.tokens_cons]
    exact tokens
  · rcases Multiset.mem_cons.1 hq with same | old
    · cases same
      exact holds
    · exact cells q old

theorem Stores.keep (h : w.Stores x) {r : Cell} (hr : .cell r ∈ x) : w.Stores (.cell r ::ₘ x) :=
  h.cell (h.cells r hr)

theorem Stores.make (h : w.Stores x) (numbered : w.Numbered) (k : Strategy) :
    (w.step (.make k)).Stores (.cell ⟨w.registry.next, k⟩ ::ₘ x) := by
  obtain ⟨threads, frames, tokens, cells⟩ := h
  have before : (w.step (.make k)).Stores x := by
    refine ⟨threads, frames, tokens, fun r hr => ?_⟩
    obtain ⟨made, live⟩ := cells r hr
    refine ⟨(List.getElem?_append_left (List.getElem?_eq_some_iff.1 made).1).trans made, ?_⟩
    simp only [step, Cell.make]
    rw [Std.ExtTreeSet.contains_insert, live, Bool.or_true]
  apply before.cell
  simp only [Holds, step, Cell.make]
  rw [numbered.next]
  exact ⟨List.getElem?_concat_length, by simp⟩

theorem Stores.thread (h : w.Stores x) : w.Stores (.thread .fresh ::ₘ x) := by
  obtain ⟨⟨n, threads, fresh⟩, frames, tokens, cells⟩ := h
  refine ⟨⟨n + 1, ?_, fun m high => fresh m (Nat.le_of_succ_le high)⟩, ?_, ?_,
    fun r hr => cells r (by simpa using hr)⟩
  · have next : ((List.range (n + 1)).map w.threads : Multiset Thread) =
        w.threads n ::ₘ ((List.range n).map w.threads : Multiset Thread) := by
      rw [List.range_succ, List.map_append]
      exact Multiset.coe_eq_coe.2 (List.perm_append_singleton _ _)
    rw [Stock.threads_cons, next, fresh n (Nat.le_refl n)]
    exact Multiset.cons_le_cons _ threads
  · rw [Stock.frames_cons]
    exact frames
  · rw [Stock.tokens_cons]
    exact tokens

end Commons

/-- The process can go on to where all of this is there. -/
def Commons.Affords (w : Commons) (registry : Registry) (x : Stock) : Prop :=
  ∃ turns, (w.run turns).Numbered ∧ registry = (w.run turns).registry ∧ (w.run turns).Stores x

namespace Commons.Affords

variable {w : Commons} {g : Registry} {x y : Stock}

theorem of_step {v : Commons} {turns : List Turn} (turn : Turn) (numbered : (w.run turns).Numbered)
    (stepped : (w.run turns).step turn = v) (stores : v.Stores y) : w.Affords v.registry y := by
  have extended : w.run (turns ++ [turn]) = v := List.foldl_append.trans stepped
  refine ⟨turns ++ [turn], ?_⟩
  rw [extended]
  exact ⟨stepped ▸ numbered.step turn, rfl, stores⟩

theorem make (h : w.Affords g x) (k : Strategy) :
    w.Affords ⟨g.next + 1, g.live.insert g.next⟩ ({.cell ⟨g.next, k⟩} + x) := by
  obtain ⟨turns, numbered, rfl, stores⟩ := h
  rw [Multiset.singleton_add]
  exact of_step (.make k) numbered rfl (stores.make numbered k)

/-- There is always one more thread that has not been at work. -/
theorem thread (h : w.Affords g x) : w.Affords g ({.thread .fresh} + x) := by
  obtain ⟨turns, numbered, registry, stores⟩ := h
  rw [Multiset.singleton_add]
  exact ⟨turns, numbered, registry, stores.thread⟩

theorem le (h : w.Affords g x) (le : y ≤ x) : w.Affords g y := by
  obtain ⟨turns, numbered, registry, stores⟩ := h
  exact ⟨turns, numbered, registry, stores.le le⟩

end Commons.Affords

/-- The process can go on to where a unit is at this site and all of this is there besides. -/
def Reached (w : Commons) (s : Site) (x : Stock) : Prop := w.Affords s.registry (s.stock + x)

namespace Reached

variable {w : Commons} {s t : Site} {x y : Stock} {r q : Cell} {k : Token}

theorem start : Reached .start .start 0 := by
  refine ⟨[], .start, rfl, ⟨1, ?_, fun _ _ => rfl⟩, ?_, ?_, ?_⟩
  · rfl
  · exact Multiset.zero_le _
  · exact Multiset.zero_le _
  · simp [Site.stock, Site.start, Stock.ofFrame]

/-- After some turns a unit is there, and what keeps a cell in use keeps it in use there. -/
theorem exists_run (h : Reached w s x) : ∃ turns u, (w.run turns).site? u = some s ∧
    ∀ r, .cell r ∈ x → (w.run turns).Holds r.id r := by
  obtain ⟨turns, -, registry, stores⟩ := h
  obtain ⟨u, hu, -⟩ := stores.exists_post registry
  exact ⟨turns, u, hu, fun r hr => stores.cells r (Site.mem_stock.2 hr)⟩

/-- Another unit goes on, where it has been before. -/
theorem turnTo (h : Reached w s x) (same : t.registry = s.registry)
    (le : t.stock + y ≤ s.stock + x) : Reached w t y := by
  rw [Reached, same]
  exact Commons.Affords.le h le

theorem congr (h : Reached w s x) (same : x = y) : Reached w s y := same ▸ h

theorem le (h : Reached w s x) (le : y ≤ x) : Reached w s y :=
  h.turnTo rfl (Multiset.add_le_add_left le)

theorem isLive (h : Reached w s x) (hr : .cell r ∈ x) : s.isLive r.id := by
  obtain ⟨turns, -, registry, stores⟩ := h
  rw [Site.isLive, registry]
  exact (stores.cells r (Site.mem_stock.2 hr)).2

theorem make (h : Reached w s x) (k : Strategy) :
    Reached w (Cell.make k s).2 ({.cell (Cell.make k s).1} + x) := by
  have made := Commons.Affords.make h k
  rw [add_left_comm] at made
  exact made

/-- A unit that is here performs a deed with a cell in use. -/
theorem perform (h : Reached w s x) (hr : .cell r ∈ x)
    (done : ∀ v : Commons, s.registry = v.registry → v.Stores (s.stock + x) →
      ∃ u d, v.site? u = some s ∧ t.registry = (v.perform r.id r u s d).registry ∧
        (v.perform r.id r u s d).Stores (t.stock + y)) : Reached w t y := by
  obtain ⟨turns, numbered, registry, stores⟩ := h
  have holds := stores.cells r (Site.mem_stock.2 hr)
  obtain ⟨u, d, hu, registry', stores'⟩ := done _ registry stores
  rw [Reached, registry']
  exact Commons.Affords.of_step _ numbered (Commons.step_deed holds hu d) stores'

/-- A deed that does no more than to take the unit to another site. -/
theorem put (h : Reached w s x) (hr : .cell r ∈ x) (d : Deed)
    (acts : ∀ v u, Commons.perform v r.id r u s d = v.put u t) (registry : t.registry = s.registry)
    (framed : t.frame.isSome = s.frame.isSome) : Reached w t x := by
  apply h.perform hr
  intro v same stores
  obtain ⟨u, hu, put⟩ := stores.exists_post same
  refine ⟨u, d, hu, congrArg (·.registry) (acts v u).symm, acts v u ▸ put t framed fun q hq => ?_⟩
  rw [Site.isLive, registry]
  exact h.isLive hq

theorem set (h : Reached w s x) (hr : .cell r ∈ x) (c : Context) : Reached w (r.set c s) x :=
  h.put hr (.set c) (fun _ _ => rfl) (r.registry_set c s) (r.isSome_frame_set c s)

theorem remove (h : Reached w s x) (hr : .cell r ∈ x) : Reached w (r.remove s) x :=
  h.put hr .remove (fun _ _ => rfl) (r.registry_remove s) (r.isSome_frame_remove s)

theorem restore (h : Reached w s x) (hr : .cell r ∈ x) (c : Option Context) :
    Reached w (r.restore c s) x :=
  h.put hr (.restore c) (fun _ _ => rfl) (r.registry_restore c s) (r.isSome_frame_restore c s)

theorem attach (h : Reached w s x) (hr : .cell r ∈ x) (c : Context) :
    Reached w (r.attach c s).2 ({.token (r.attach c s).1} + x) := by
  apply h.perform hr
  intro v same stores
  obtain ⟨u, hu, put⟩ := stores.exists_post same
  have attached := put (r.attach c s).2 (r.isSome_frame_set c s) fun q hq => by
    rw [Site.isLive, Cell.registry_attach]
    exact h.isLive hq
  refine ⟨u, .attach c, hu, rfl, ?_⟩
  rw [Multiset.singleton_add, Multiset.add_cons]
  exact attached.issue (r.attach c s).1

/-- A token may be handed back through any cell in use. -/
theorem detach (h : Reached w s ({.token k} + x)) (hr : .cell r ∈ x) :
    Reached w (r.detach k s) x := by
  rw [Multiset.singleton_add] at h
  apply h.perform (Multiset.mem_cons_of_mem hr)
  intro v same stores
  rw [Multiset.add_cons] at stores
  obtain ⟨j, hj, spent⟩ := stores.spend
  obtain ⟨u, hu, put⟩ := spent.exists_post same
  refine ⟨u, .detach j, hu, ?_⟩
  simp only [Commons.perform, hj]
  refine ⟨rfl, put _ (r.isSome_frame_detach k s) fun q hq => ?_⟩
  rw [Site.isLive, Cell.registry_detach]
  exact h.isLive (Multiset.mem_cons_of_mem hq)

theorem fork (h : Reached w s x) (hr : .cell r ∈ x) {c : Option Context} {b : Bindings}
    (forked : r.fork c s = some b) : Reached w s ({.frame b} + x) := by
  apply h.perform hr
  intro v same stores
  obtain ⟨u, hu, -⟩ := stores.exists_post same
  refine ⟨u, .fork c, hu, ?_⟩
  simp only [Commons.perform, forked]
  rw [Multiset.singleton_add, Multiset.add_cons]
  exact ⟨same, stores.begin b⟩

/-- A task can be started wherever the cell is in use. -/
theorem shell (h : Reached w s x) (hr : .cell r ∈ x) (c : Option Context) :
    Reached w s ((r.shell c s).stock + x) := by
  rw [Cell.shell]
  split
  next b forked => exact h.fork hr forked
  next => exact h.congr (Multiset.zero_add x).symm

theorem eq_of_id (h : Reached w s x) (hr : .cell r ∈ x) (hq : .cell q ∈ x) (same : q.id = r.id) :
    q = r := by
  obtain ⟨turns, -, -, stores⟩ := h
  have found := (stores.cells r (Site.mem_stock.2 hr)).1
  rw [← same] at found
  exact Option.some.inj ((stores.cells q (Site.mem_stock.2 hq)).1.symm.trans found)

theorem retire (h : Reached w s ({.cell r} + x)) (last : .cell r ∉ x) :
    Reached w (r.retire s) x := by
  rw [Multiset.singleton_add] at h
  have here : Item.cell r ∈ Item.cell r ::ₘ x := Multiset.mem_cons_self _ x
  apply h.perform here
  intro v same stores
  have kept := stores.le (Multiset.add_le_add_left (Multiset.le_cons_self x (.cell r)))
  obtain ⟨u, hu, put⟩ := kept.exists_post same
  refine ⟨u, .retire, hu, rfl, put _ (congrArg _ (r.frame_retire s)) fun q hq => ?_⟩
  refine Cell.isLive_retire.2 ⟨fun same => last ?_, h.isLive (Multiset.mem_cons_of_mem hq)⟩
  exact h.eq_of_id here (Multiset.mem_cons_of_mem hq) same.symm ▸ hq

/-- Something more keeps a cell in use. -/
theorem keep (h : Reached w s x) (hr : .cell r ∈ x) : Reached w s ({.cell r} + x) := by
  rw [Multiset.singleton_add]
  obtain ⟨turns, numbered, registry, stores⟩ := h
  refine ⟨turns, numbered, registry, ?_⟩
  rw [Multiset.add_cons]
  exact stores.keep (Site.mem_stock.2 hr)

theorem thread (h : Reached w s x) : Reached w s ({.thread .fresh} + x) := by
  have begun := Commons.Affords.thread h
  rw [add_left_comm] at begun
  exact begun

theorem finish {g : Guard} (h : Reached w s (Stock.ofToken g.token + x)) (hr : .cell g.cell ∈ x) :
    Reached w (g.finish s).2 x := by
  obtain ⟨q, token⟩ := g
  cases token with
  | none => exact h.congr (Multiset.zero_add x)
  | some k => exact h.detach hr

/-- A unit in a frame gives way to one in another frame, or in none. -/
theorem exchange {frame : Option Bindings} (h : Reached w s (Stock.ofFrame frame + x)) :
    Reached w { s with frame } (Stock.ofFrame s.frame + x) := by
  refine h.turnTo rfl (le_of_eq ?_)
  simp only [Site.stock, ← Multiset.singleton_add]
  abel

/-- Work goes on on another thread, in another frame or in none. -/
theorem moveTo {thread : Thread} {frame : Option Bindings}
    (h : Reached w s ({.thread thread} + (Stock.ofFrame frame + x))) :
    Reached w { s with thread, frame } (s.stock + x) := by
  refine h.turnTo rfl (le_of_eq ?_)
  simp only [Site.stock, ← Multiset.singleton_add]
  abel

theorem enter {shell : Shell} (h : Reached w s (shell.stock + x))
    (kept : ∀ q c, shell = .carried q c → .cell q ∈ x) :
    Reached w (shell.enter s).2 ((shell.enter s).1.stock + x) := by
  cases shell with
  | framed b =>
    have entered : Reached w s (Stock.ofFrame (some b) + x) := h
    exact entered.exchange
  | carried q c => exact (h.congr (Multiset.zero_add x)).attach (kept q c rfl) c

theorem leave {visit : Visit} (h : Reached w s (visit.stock + x))
    (kept : ∀ g, visit = .guarded g → .cell g.cell ∈ x)
    (framed : ∀ host, visit = .host host → s.frame.isSome) :
    Reached w (visit.leave s).2 ((visit.leave s).1.stock + x) := by
  cases visit with
  | host frame =>
    obtain ⟨b, hb⟩ := Option.isSome_iff_exists.1 (framed frame rfl)
    have left := h.exchange
    simp only [Visit.leave, hb, Option.getD_some] at left ⊢
    exact left
  | guarded g => exact (h.finish (kept g rfl)).congr (Multiset.zero_add x).symm

/-- What of the place of the host is left over where a task is dropped. -/
def hostStock : Shell → Option Bindings → Stock
  | .framed _, host => Stock.ofFrame host
  | .carried _ _, _ => 0

theorem reveal {shell : Shell} (h : Reached w s (shell.stock + x)) :
    Reached w (shell.reveal s) (hostStock shell s.frame + x) := by
  cases shell with
  | framed b =>
    have entered : Reached w s (Stock.ofFrame (some b) + x) := h
    exact entered.exchange
  | carried q c => exact h

theorem conceal {shell : Shell} {host : Option Bindings}
    (h : Reached w s (hostStock shell host + x)) : Reached w (shell.conceal host s) x := by
  cases shell with
  | framed b => exact h.exchange.le (Multiset.le_add_left _ _)
  | carried q c => exact h.congr (Multiset.zero_add x)

end Reached

end Ambient
