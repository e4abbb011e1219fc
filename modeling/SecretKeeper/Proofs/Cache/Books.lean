import SecretKeeper.Proofs.Cache.WriteLog

/-!
The books of a world: its stores, the history of what has ended, the recorder and the log. Apart
from new caches only the end of an operation writes in them, so that what each end keeps is kept by
every move.
-/
namespace SecretKeeper.Cache

structure Books where
  stores : List Store
  history : List Finished
  recorder : Metrics.Recorder
  log : List Log.Event

namespace World

def books (w : World) : Books := ⟨w.stores, w.finished, w.recorder, w.events⟩

section Kept
variable {P : Books → Prop}

theorem fire_books {w : World} {d : Due}
    (kept : ∀ (u : World) op outcome, d.ending = some (op, outcome) → P u.books →
      P (u.finish op outcome).books)
    (before : P w.books) : P (w.fire d).books := by
  unfold fire
  split
  · rename_i op outcome ending
    exact kept _ op outcome ending before
  · exact before

theorem arrange_books {w : World} {d : Due}
    (kept : ∀ (u : World) op outcome, d.ending = some (op, outcome) → P u.books →
      P (u.finish op outcome).books)
    (before : P w.books) : P (w.arrange d).books := by
  unfold arrange
  split
  · exact fire_books kept before
  · exact before

theorem begin_books {w : World} {h : Handle} {request : Request}
    (kept : ∀ (u : World) outcome, P u.books → P (u.finish (w.opening h request) outcome).books)
    (before : P w.books) : P (w.begin h request).books := by
  rcases w.begin_cases h request with ⟨outcome, _, same⟩ | ⟨q, _, same⟩ <;> rw [same]
  · exact kept w.opened outcome before
  · refine arranged (P := fun v => P v.books) (w.opened.call (w.opening h request) q) before ?_
    intro v d member still
    refine arrange_books ?_ still
    intro u op outcome ending books
    obtain ⟨own, _⟩ := Operation.dues_ending member ending
    obtain rfl := (Prod.mk.inj own).1
    exact kept u outcome books

/-- What the end of every operation keeps is kept by every move that makes no new store. -/
theorem move_books {w v : World} (move : Move w v)
    (noneNew : v.stores.length = w.stores.length)
    (kept : ∀ (u : World) op outcome, op ∈ v.operations → P u.books → P (u.finish op outcome).books)
    (before : P w.books) : P v.books := by
  cases move with
  | create id backend timing log => simp [create] at noneNew
  | clone | track | pass => exact before
  | begin id h request known =>
    refine begin_books (fun u outcome => kept u _ outcome ?_) before
    exact (begin_operations w h request).mem_iff.mpr List.mem_cons_self
  | fire d rest next =>
    refine fire_books (w := { w with agenda := rest }) ?_ before
    intro u op outcome ending
    apply kept u op outcome
    apply (next_operations next).mem_iff.mpr
    exact mem_operations.mpr (Or.inr ⟨d, next ▸ List.mem_cons_self, outcome, ending⟩)

end Kept

theorem move_stores {w v : World} (move : Move w v) :
    v.stores.length = w.stores.length ∨
      ∃ id backend timing log, v = w.create id backend timing log := by
  cases move with
  | create id backend timing log => exact Or.inr ⟨id, backend, timing, log, rfl⟩
  | clone | track | pass => exact Or.inl rfl
  | begin id h request known => exact Or.inl (begin_stores_length w h request)
  | fire d rest next => exact Or.inl (fire_stores_length { w with agenda := rest } d)

end World
end SecretKeeper.Cache
