import SecretKeeper.Log.Filter

/-!
When spans are seen. It depends on what a span names, but not on the mount point. The settings
alone always let spans through, and of events those up to a level; among filters without directives
about spans, those let spans through that let anything of at most the importance of a span through.
-/
namespace SecretKeeper.Log

def Span.movedTo (s : Span) (mountpoint : String) : Span := { s with mountpoint }

namespace Limit

theorem rank_le_foldl_max (ls : List Limit) (start : Limit) :
    ∀ l ∈ start :: ls, l.rank ≤ (ls.foldl max start).rank := by
  induction ls generalizing start with
  | nil =>
    intro l member
    rw [List.mem_singleton.mp member]
    exact Nat.le_refl _
  | cons first rest ih =>
    intro l member
    have greater := ih (max start first) (max start first) List.mem_cons_self
    rw [rank_max] at greater
    rcases List.mem_cons.mp member with rfl | further
    · exact Nat.le_trans (Nat.le_max_left _ _) greater
    · rcases List.mem_cons.mp further with rfl | later
      · exact Nat.le_trans (Nat.le_max_right _ _) greater
      · exact ih _ l (List.mem_cons_of_mem _ later)

theorem rank_le_greatest {ls : List Limit} {l : Limit} (member : l ∈ ls) :
    l.rank ≤ (greatest ls).rank :=
  rank_le_foldl_max ls off l (List.mem_cons_of_mem _ member)

theorem admits_mono {l l' : Limit} (below : l.rank ≤ l'.rank) {level level' : Level}
    (atLeast : level'.rank ≤ level.rank) (admits : l.admits level = true) :
    l'.admits level' = true := by
  have reaches : level.rank ≤ l.rank := of_decide_eq_true admits
  exact decide_eq_true (by omega)

theorem off_admits (level : Level) : off.admits level = false := by
  cases level <;> rfl

end Limit

namespace Filter

theorem foldl_moreSpecific_mem (ds : List Directive) (best : Option Directive) {d : Directive}
    (found : ds.foldl (fun best d =>
      match best with
      | some b => if d.isLessSpecific b then some b else some d
      | none => some d) best = some d) : best = some d ∨ d ∈ ds := by
  induction ds generalizing best with
  | nil => exact Or.inl found
  | cons first rest ih =>
    rcases ih _ found with here | later
    · cases best with
      | none =>
        rw [← Option.some.inj here]
        exact Or.inr List.mem_cons_self
      | some b =>
        simp only at here
        split at here
        · exact Or.inl here
        · rw [← Option.some.inj here]
          exact Or.inr List.mem_cons_self
    · exact Or.inr (List.mem_cons_of_mem _ later)

theorem mostSpecific_mem {ds : List Directive} {d : Directive} (found : mostSpecific? ds = some d) :
    d ∈ ds :=
  (foldl_moreSpecific_mem ds none found).resolve_left (Option.some_ne_none d).symm

variable {f : Filter} {target : String}

theorem ceiling_admits {d : Directive} (member : d ∈ f.directives) {level : Level}
    (admits : d.limit.admits level = true) : f.ceiling.admits level = true := by
  unfold ceiling
  split
  · cases level <;> rfl
  · exact Limit.admits_mono (Limit.rank_le_greatest (List.mem_map_of_mem member)) (Nat.le_refl _)
      admits

theorem admitsSpan_of_plainly (plainly : f.admitsSpansPlainly target = true) (s : Span) :
    f.admitsSpan target s = true := by
  obtain ⟨d, found, admits⟩ := (Option.any_eq_true _ _).mp plainly
  have member : d ∈ f.directives :=
    (List.mem_filter.mp (List.mem_filter.mp (mostSpecific_mem found)).1).1
  rw [admitsSpan, plainly, ceiling_admits member admits, Bool.or_true, Bool.and_true]

/-- Spans are told apart by the names of their fields, not by the mount points in them. -/
theorem admitsSpan_movedTo (f : Filter) (target : String) (s : Span) (mountpoint : String) :
    f.admitsSpan target (s.movedTo mountpoint) = f.admitsSpan target s := rfl

theorem ofSettings_eq (settings : LogSettings) :
    ofSettings settings = upTo (if settings.debug then .debug else .info) := by
  unfold ofSettings LogSettings.directive
  cases settings.debug <;> decide

theorem choose_of_unasked {wanted : Option String} {settings : LogSettings}
    (unasked : ∀ text, wanted = some text → ofText text = .error .malformed) :
    choose? wanted settings = some (ofSettings settings) := by
  cases wanted with
  | none => rfl
  | some text => rw [choose?, Option.map_some, unasked text rfl]

theorem ofSettings_admitsSpan (settings : LogSettings) (target : String) (s : Span) :
    (ofSettings settings).admitsSpan target s = true := by
  rw [ofSettings_eq]
  apply admitsSpan_of_plainly
  cases settings.debug <;> rfl

section Topical
variable (topical : ∀ d ∈ f.directives, d.isAboutSpans = false)
include topical

theorem topical_parts {d : Directive} (member : d ∈ f.directives) :
    d.span = none ∧ d.field = none := by
  have neither := topical d member
  rw [Directive.isAboutSpans, Bool.or_eq_false_iff] at neither
  exact ⟨Option.not_isSome_iff_eq_none.mp (by rw [neither.1]; decide),
    Option.not_isSome_iff_eq_none.mp (by rw [neither.2]; decide)⟩

theorem plain_topical : f.plain = f.directives := by
  apply List.filter_eq_self.mpr
  intro d member
  obtain ⟨span, field⟩ := topical_parts topical member
  rw [Directive.isPlain, span, field]
  rfl

theorem aboutSpans_topical : f.aboutSpans = [] := by
  rw [aboutSpans, List.filter_eq_nil_iff.mpr fun d member => by simp [topical d member]]
  rfl

theorem admits_topical (e : Event) :
    f.admits e = (mostSpecific? (f.directives.filter fun d => d.concernsTarget e.target)).any
      fun d => d.limit.admits e.level := by
  have concerned : (f.directives.filter fun d => d.concernsEvent e) =
      f.directives.filter fun d => d.concernsTarget e.target := by
    apply List.filter_congr
    intro d member
    rw [Directive.concernsEvent, (topical_parts topical member).2]
    exact Bool.and_true _
  have inside (s : Span) : (f.limitInside e.target s).admits e.level = false := by
    rw [limitInside, aboutSpans_topical topical]
    exact Limit.off_admits e.level
  rw [admits, admitsPlainly, plain_topical topical, concerned]
  simp [inside]

/-- Where no directive is about spans, whatever is at most as important as a span passes only
together with spans. -/
theorem admitsSpan_of_admits {e : Event} (passes : f.admits e = true)
    (minor : Span.level.rank ≤ e.level.rank) (s : Span) : f.admitsSpan e.target s = true := by
  apply admitsSpan_of_plainly
  rw [admits_topical topical] at passes
  rw [admitsSpansPlainly, plain_topical topical]
  cases found : mostSpecific? (f.directives.filter fun d => d.concernsTarget e.target) with
  | none =>
    rw [found] at passes
    cases passes
  | some d =>
    rw [found] at passes
    exact Limit.admits_mono (Nat.le_refl _) minor passes

end Topical

theorem upTo_admits (level : Level) (e : Event) :
    (upTo level).admits e = (Limit.upTo level).admits e.level := by
  have topical : ∀ d ∈ (upTo level).directives, d.isAboutSpans = false := by
    intro d member
    rw [List.mem_singleton.mp member]
    rfl
  have everywhere : ((upTo level).directives.filter fun d => d.concernsTarget e.target) =
      (upTo level).directives := by
    apply List.filter_eq_self.mpr
    intro d member
    rw [List.mem_singleton.mp member]
    exact List.isPrefixOf_nil_left
  rw [admits_topical topical, everywhere]
  rfl

theorem ofSettings_spanOf (settings : LogSettings) (e : Event) :
    (ofSettings settings).spanOf? e = e.span := by
  cases span : e.span with
  | none => rw [spanOf?, span, Option.filter_none]
  | some s => rw [spanOf?, span, Option.filter_some, if_pos (ofSettings_admitsSpan settings _ s)]

end Filter
end SecretKeeper.Log
