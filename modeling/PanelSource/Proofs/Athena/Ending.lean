import Mathlib.Order.Defs.Unbundled
import PanelSource.Athena.Session

/- How requests end.

   `Ends x w r w'` says that a request `x` takes a world `w` to `w'` with the result `r`. Every way
   to build requests has an equation for it, so that a request can be taken apart into its steps
   without unfolding the monad. `Keeps R x` says that `x` relates the worlds before and after it by
   `R`, however it ends, which every request does whose steps do. -/
namespace PanelSource

/-- A request takes a world to another with a result. -/
def Ends {W α : Type} (x : ServiceM W α) (w : W) (r : Except AthenaError α) (w' : W) : Prop :=
  x.run w = (r, w')

section
variable {W α β : Type} {x : ServiceM W α} {w w' : W} {r : Except AthenaError α}

theorem ends_self (x : ServiceM W α) (w : W) : Ends x w (x.run w).1 (x.run w).2 := rfl

theorem ends_iff_of_run {r₀ : Except AthenaError α} {w₀ : W} (h : x.run w = (r₀, w₀)) :
    Ends x w r w' ↔ r = r₀ ∧ w' = w₀ := by
  unfold Ends
  rw [h, Prod.mk.injEq, eq_comm, @eq_comm _ w₀]

theorem ends_pure {a : α} : Ends (pure a) w r w' ↔ r = .ok a ∧ w' = w :=
  ends_iff_of_run rfl

theorem ends_throw {e : AthenaError} : Ends (throw e) w r w' ↔ r = .error e ∧ w' = w :=
  ends_iff_of_run rfl

/-- A result that is at hand. -/
theorem ends_mk {e : Except AthenaError α} :
    Ends (ExceptT.mk (pure e)) w r w' ↔ r = e ∧ w' = w :=
  ends_iff_of_run rfl

/-- One request after the other: the first fails, or the second goes on from where it ended. -/
theorem ends_bind {f : α → ServiceM W β} {r : Except AthenaError β} :
    Ends (x >>= f) w r w' ↔
      (∃ a v, Ends x w (.ok a) v ∧ Ends (f a) v r w') ∨
        ∃ e, Ends x w (.error e) w' ∧ r = .error e := by
  have hrun : (x >>= f).run w = ExceptT.bindCont f (x.run w).1 (x.run w).2 := rfl
  unfold Ends
  rw [hrun]
  obtain ⟨a | a, v⟩ := x.run w
  · constructor
    · rintro ⟨⟩
      exact .inr ⟨a, rfl, rfl⟩
    · rintro (⟨_, _, h, -⟩ | ⟨_, h, rfl⟩)
      · cases h
      · cases h
        rfl
  · constructor
    · intro h
      exact .inl ⟨a, v, rfl, h⟩
    · rintro (⟨_, _, h, hf⟩ | ⟨_, h, -⟩)
      · cases h
        exact hf
      · cases h

theorem ends_bind_of_run {f : α → ServiceM W β} {r : Except AthenaError β} {a : α} {v : W}
    (h : x.run w = (.ok a, v)) : Ends (x >>= f) w r w' ↔ Ends (f a) v r w' := by
  have hrun : (x >>= f).run w = ExceptT.bindCont f (x.run w).1 (x.run w).2 := rfl
  rw [h] at hrun
  unfold Ends
  rw [hrun]
  rfl

theorem ends_ok_bind {f : α → ServiceM W β} {b : β} :
    Ends (x >>= f) w (.ok b) w' ↔ ∃ a v, Ends x w (.ok a) v ∧ Ends (f a) v (.ok b) w' := by
  rw [ends_bind]
  constructor
  · rintro (h | ⟨_, -, h⟩)
    · exact h
    · cases h
  · exact .inl

theorem ends_map {f : α → β} {r : Except AthenaError β} :
    Ends (do return f (← x)) w r w' ↔ ∃ answer, Ends x w answer w' ∧ r = answer.map f := by
  rw [ends_bind]
  constructor
  · rintro (⟨a, v, ha, h⟩ | ⟨e, he, rfl⟩)
    · obtain ⟨rfl, rfl⟩ := ends_pure.mp h
      exact ⟨_, ha, rfl⟩
    · exact ⟨_, he, rfl⟩
  · rintro ⟨e | a, h, rfl⟩
    · exact .inr ⟨e, h, rfl⟩
    · exact .inl ⟨a, w', h, rfl⟩

end

/-! ## What a request keeps -/

/-- A request relates the world before it to the one after it, however it ends. -/
def Keeps {W α : Type} (R : W → W → Prop) (x : ServiceM W α) : Prop :=
  ∀ ⦃w r w'⦄, Ends x w r w' → R w w'

section
variable {W α β : Type} {R : W → W → Prop} [IsPreorder W R] {x : ServiceM W α}

theorem keeps_pure (a : α) : Keeps R (pure a : ServiceM W α) := by
  intro w r w' h
  obtain ⟨-, rfl⟩ := ends_pure.mp h
  exact refl w'

theorem keeps_throw (e : AthenaError) : Keeps R (throw e : ServiceM W α) := by
  intro w r w' h
  obtain ⟨-, rfl⟩ := ends_throw.mp h
  exact refl w'

theorem keeps_mk (e : Except AthenaError α) : Keeps R (ExceptT.mk (pure e) : ServiceM W α) := by
  intro w r w' h
  obtain ⟨-, rfl⟩ := ends_mk.mp h
  exact refl w'

theorem Keeps.bind {f : α → ServiceM W β} (hx : Keeps R x) (hf : ∀ a, Keeps R (f a)) :
    Keeps R (x >>= f) := by
  intro w r w' h
  rcases ends_bind.mp h with ⟨a, v, ha, h⟩ | ⟨e, h, -⟩
  · exact IsTrans.trans _ _ _ (hx ha) (hf a h)
  · exact hx h

theorem Keeps.inBatches {call : List String → ServiceM W (List α)} (h : ∀ ids, Keeps R (call ids))
    (bs : List (List String)) : Keeps R (inBatches call bs) := by
  induction bs with
  | nil => exact keeps_pure []
  | cons ids bs ih =>
    refine Keeps.bind (h ids) fun xs => ?_
    exact Keeps.bind ih fun ys => keeps_pure _

end

/-! ## Sessions -/

section
variable {W α : Type} {b : AthenaBackend W} {s s' : Session W}

theorem ends_call {x : ServiceM W α} {r : Except AthenaError α} :
    Ends (Session.call x) s r s' ↔ ∃ w, Ends x s.world r w ∧ s' = { s with world := w } := by
  show ((x.run s.world).1, { s with world := (x.run s.world).2 }) = (r, s') ↔ _
  constructor
  · intro h
    cases h
    exact ⟨_, rfl, rfl⟩
  · rintro ⟨w, h, rfl⟩
    have h : x.run s.world = (r, w) := h
    rw [h]

theorem ends_region {name : String} {r : Except AthenaError (String × RegionService W)} :
    Ends (b.region name) s r s' ↔
      ∃ answer w, Ends (b.athena.region (b.settings.resolveRegion name)) s.world answer w ∧
        s' = { s with world := w } ∧
        r = answer.map fun service => (b.settings.resolveRegion name, service) := by
  unfold AthenaBackend.region
  simp only [ends_bind, ends_call, ends_pure]
  constructor
  · rintro (⟨service, _, ⟨w, h, rfl⟩, rfl, rfl⟩ | ⟨e, ⟨w, h, rfl⟩, rfl⟩)
    · exact ⟨_, w, h, rfl, rfl⟩
    · exact ⟨_, w, h, rfl, rfl⟩
  · rintro ⟨e | service, w, h, rfl, rfl⟩
    · exact .inr ⟨e, ⟨w, h, rfl⟩, rfl⟩
    · exact .inl ⟨service, _, ⟨w, h, rfl⟩, rfl, rfl⟩

end
end PanelSource
