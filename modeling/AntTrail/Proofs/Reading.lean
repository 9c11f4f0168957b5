/-!
# Reading from the front of a list

Computations that can break off, and among them those that take items from the
front of a list. A reader is described by what it accepts: `Reads d write admits`
says that `d` takes exactly the items that `write` gives for an admitted value,
and succeeds on nothing else.
-/
namespace AntTrail

variable {ε α β σ τ : Type}

/-! ## Computations that can break off -/

theorem bind_eq_ok {x : Except ε α} {f : α → Except ε β} {b : β} :
    (x >>= f) = .ok b ↔ ∃ a, x = .ok a ∧ f a = .ok b := by
  cases x with
  | error e => simp [bind, Except.bind]
  | ok a => simp [bind, Except.bind]

theorem ok_bind {a : α} {f : α → Except ε β} : (Except.ok a >>= f) = f a := rfl

@[simp] theorem pure_eq_ok {a b : α} : (pure a : Except ε α) = .ok b ↔ a = b := by
  simp [pure, Except.pure]

@[simp] theorem throw_ne_ok {e : ε} {b : α} : (throw e : Except ε α) ≠ .ok b := by
  simp [throw, throwThe, MonadExceptOf.throw]

/-- A check is passed when what it refuses is not the case and what follows succeeds. -/
theorem ite_throw_eq_ok {c : Prop} [Decidable c] {e : ε} {f : α → Except ε β} {x : Except ε β}
    {b : β} : (if c then throw e >>= f else x) = .ok b ↔ ¬c ∧ x = .ok b := by
  by_cases h : c
  · simp [h, bind, Except.bind, throw, throwThe, MonadExceptOf.throw]
  · simp [h]

theorem map_eq_ok {f : α → β} {x : Except ε α} {b : β} :
    x.map f = .ok b ↔ ∃ a, x = .ok a ∧ f a = b := by
  cases x with
  | error e => simp [Except.map]
  | ok a => simp [Except.map]

theorem mapError_eq_ok {δ : Type} {f : ε → δ} {x : Except ε α} {a : α} :
    x.mapError f = .ok a ↔ x = .ok a := by
  cases x with
  | error e => exact ⟨nofun, nofun⟩
  | ok b =>
    constructor
    · intro h
      rw [Except.ok.inj h]
    · intro h
      rw [Except.ok.inj h]
      rfl

theorem bind_eq_error {x : Except ε α} {f : α → Except ε β} {e : ε} :
    (x >>= f) = .error e ↔ x = .error e ∨ ∃ a, x = .ok a ∧ f a = .error e := by
  cases x with
  | error e' => simp [bind, Except.bind]
  | ok a => simp [bind, Except.bind]

theorem mapError_eq_error {δ : Type} {f : ε → δ} {x : Except ε α} {e : δ} :
    x.mapError f = .error e ↔ ∃ e', x = .error e' ∧ f e' = e := by
  cases x with
  | error e' =>
    constructor
    · intro h
      exact ⟨e', rfl, Except.error.inj h⟩
    · rintro ⟨_, ⟨⟩, rfl⟩
      rfl
  | ok a =>
    constructor
    · nofun
    · rintro ⟨_, ⟨⟩, -⟩

theorem exists_of_isOk {x : Except ε α} (h : x.isOk) : ∃ a, x = .ok a := by
  cases x with
  | error e => cases h
  | ok a => exact ⟨a, rfl⟩

theorem eq_ok_of_toOption {x : Except ε α} {a : α} (h : x.toOption = some a) : x = .ok a := by
  cases x with
  | error e => cases h
  | ok b => rw [Option.some.inj h]

theorem run_bind_eq_ok {d : StateT σ (Except ε) α} {f : α → StateT σ (Except ε) β}
    {s s' : σ} {b : β} :
    (d >>= f).run s = .ok (b, s') ↔
      ∃ a s₁, d.run s = .ok (a, s₁) ∧ (f a).run s₁ = .ok (b, s') := by
  rw [StateT.run_bind, bind_eq_ok]
  constructor
  · rintro ⟨⟨a, s₁⟩, h⟩
    exact ⟨a, s₁, h⟩
  · rintro ⟨a, s₁, h⟩
    exact ⟨(a, s₁), h⟩

theorem run_bind_eq_error {d : StateT σ (Except ε) α} {f : α → StateT σ (Except ε) β} {s : σ}
    {e : ε} :
    (d >>= f).run s = .error e ↔
      d.run s = .error e ∨ ∃ a s₁, d.run s = .ok (a, s₁) ∧ (f a).run s₁ = .error e := by
  rw [StateT.run_bind, bind_eq_error, Prod.exists]

/-- A step that fails keeps the next from being taken. -/
theorem run_bind_error {d : StateT σ (Except ε) α} {f : α → StateT σ (Except ε) β} {s : σ} {e : ε}
    (h : d.run s = .error e) : (d >>= f).run s = .error e :=
  run_bind_eq_error.mpr (.inl h)

/-- A step that succeeds hands its result and what it leaves to the next. -/
theorem run_bind_ok {d : StateT σ (Except ε) α} {f : α → StateT σ (Except ε) β} {s s₁ : σ}
    {a : α} (h : d.run s = .ok (a, s₁)) : (d >>= f).run s = (f a).run s₁ := by
  rw [StateT.run_bind, h]
  rfl

theorem run_pure_eq_ok {a b : α} {s s' : σ} :
    (pure a : StateT σ (Except ε) α).run s = .ok (b, s') ↔ a = b ∧ s = s' := by
  rw [StateT.run_pure, pure_eq_ok, Prod.mk.injEq]

theorem run_get_bind {f : σ → StateT σ (Except ε) β} {s : σ} :
    ((get : StateT σ (Except ε) σ) >>= f).run s = (f s).run s := rfl

theorem run_set_bind {f : PUnit → StateT σ (Except ε) β} {s t : σ} :
    ((set t : StateT σ (Except ε) PUnit) >>= f).run s = (f ⟨⟩).run t := rfl

theorem run_map_eq_ok {d : StateT σ (Except ε) α} {f : α → β} {s s' : σ} {b : β} :
    (f <$> d).run s = .ok (b, s') ↔ ∃ a, d.run s = .ok (a, s') ∧ f a = b := by
  rw [StateT.run_map]
  cases d.run s with
  | error e => simp [Functor.map, Except.map]
  | ok p => obtain ⟨a, s₁⟩ := p; simp [Functor.map, Except.map]; grind

theorem run_map_eq_error {d : StateT σ (Except ε) α} {f : α → β} {s : σ} {e : ε} :
    (f <$> d).run s = .error e ↔ d.run s = .error e := by
  rw [StateT.run_map]
  cases d.run s with
  | error e' => simp [Functor.map, Except.map]
  | ok p => simp [Functor.map, Except.map]

theorem run_throw_ne_ok {e : ε} {s : σ} {p : α × σ} :
    (throw e : StateT σ (Except ε) α).run s ≠ .ok p := nofun

theorem run'_eq_ok {d : StateT σ (Except ε) α} {s : σ} {a : α} :
    d.run' s = .ok a ↔ ∃ s', d.run s = .ok (a, s') := by
  show Prod.fst <$> d.run s = .ok a ↔ _
  cases d.run s with
  | error e => simp [Functor.map, Except.map]
  | ok p => obtain ⟨b, s₁⟩ := p; simp [Functor.map, Except.map]

theorem run'_eq_error {d : StateT σ (Except ε) α} {s : σ} {e : ε} :
    d.run' s = .error e ↔ d.run s = .error e := by
  show Prod.fst <$> d.run s = .error e ↔ _
  cases d.run s with
  | error e' => simp [Functor.map, Except.map]
  | ok p => simp [Functor.map, Except.map]

theorem run_lift_eq_ok {x : Except ε α} {s s' : σ} {a : α} :
    (liftM x : StateT σ (Except ε) α).run s = .ok (a, s') ↔ x = .ok a ∧ s = s' := by
  cases x with
  | error e => exact ⟨nofun, nofun⟩
  | ok b =>
    show Except.ok (b, s) = _ ↔ _
    rw [Except.ok.injEq, Except.ok.injEq, Prod.mk.injEq]

theorem run_lift_eq_error {x : Except ε α} {s : σ} {e : ε} :
    (liftM x : StateT σ (Except ε) α).run s = .error e ↔ x = .error e := by
  cases x with
  | error e' =>
    show Except.error e' = _ ↔ _
    rw [Except.error.injEq, Except.error.injEq]
  | ok a => exact ⟨nofun, nofun⟩

/-- One computation for each member of a list: all succeed together, with their results
in the same order. -/
theorem mapM_eq_ok {f : α → Except ε β} {xs : List α} {ys : List β} :
    xs.mapM f = .ok ys ↔ xs.map f = ys.map .ok := by
  induction xs generalizing ys with
  | nil => cases ys <;> simp
  | cons x xs ih =>
    rw [List.mapM_cons, bind_eq_ok]
    constructor
    · rintro ⟨y, hy, h⟩
      obtain ⟨rest, hr, h⟩ := bind_eq_ok.mp h
      obtain rfl := pure_eq_ok.mp h
      rw [List.map_cons, List.map_cons, hy, ih.mp hr]
    · intro h
      cases ys with
      | nil => cases h
      | cons y rest =>
        rw [List.map_cons, List.map_cons, List.cons.injEq] at h
        exact ⟨y, h.1, bind_eq_ok.mpr ⟨rest, ih.mpr h.2, rfl⟩⟩

theorem exists_of_mapM_eq_ok {f : α → Except ε β} {xs : List α} {ys : List β}
    (h : xs.mapM f = .ok ys) {y : β} (hy : y ∈ ys) : ∃ x ∈ xs, f x = .ok y := by
  have hm : (Except.ok y : Except ε β) ∈ ys.map .ok := List.mem_map_of_mem hy
  rw [← mapM_eq_ok.mp h] at hm
  exact List.mem_map.mp hm

theorem length_of_mapM_eq_ok {f : α → Except ε β} {xs : List α} {ys : List β}
    (h : xs.mapM f = .ok ys) : ys.length = xs.length := by
  rw [← List.length_map (f := (Except.ok : β → Except ε β)), ← mapM_eq_ok.mp h, List.length_map]

/-- They fail together as soon as one of them fails, in a way in which one of them does. -/
theorem mapM_eq_error {f : α → Except ε β} {xs : List α} {e : ε} (h : xs.mapM f = .error e) :
    ∃ x ∈ xs, f x = .error e := by
  induction xs with
  | nil => cases h
  | cons x xs ih =>
    rw [List.mapM_cons] at h
    rcases bind_eq_error.mp h with h | ⟨y, -, h⟩
    · exact ⟨x, List.mem_cons_self, h⟩
    · rcases bind_eq_error.mp h with h | ⟨ys, -, h⟩
      · obtain ⟨x', hx', h'⟩ := ih h
        exact ⟨x', List.mem_cons_of_mem x hx', h'⟩
      · cases h

theorem mapM_isOk {f : α → Except ε β} {xs : List α} (h : ∀ x ∈ xs, ∃ y, f x = .ok y) :
    ∃ ys, xs.mapM f = .ok ys := by
  cases hm : xs.mapM f with
  | ok ys => exact ⟨ys, rfl⟩
  | error e =>
    obtain ⟨x, hx, hf⟩ := mapM_eq_error hm
    obtain ⟨y, hy⟩ := h x hx
    rw [hy] at hf
    cases hf

/-- Computations that know no state, one for each member of a list, are one that knows
no state. -/
theorem mapM_lift {f : α → Except ε β} {xs : List α} :
    (xs.mapM fun x => (liftM (f x) : StateT σ (Except ε) β)) = liftM (xs.mapM f) := by
  induction xs with
  | nil => simp
  | cons x xs ih => simp [List.mapM_cons, ih]

/-! ## What holds of a result -/

/-- Whenever `d` succeeds, its result satisfies `post`. -/
def Ensures (d : StateT σ (Except ε) α) (post : α → Prop) : Prop :=
  ∀ s a s', d.run s = .ok (a, s') → post a

namespace Ensures

variable {d : StateT σ (Except ε) α} {f : α → StateT σ (Except ε) β} {pre : α → Prop}
  {post : β → Prop}

theorem pure {a : α} (h : pre a) : Ensures (Pure.pure a : StateT σ (Except ε) α) pre := by
  intro s b s' hr
  obtain ⟨rfl, -⟩ := run_pure_eq_ok.mp hr
  exact h

theorem throw {e : ε} : Ensures (MonadExcept.throw e : StateT σ (Except ε) α) pre := by
  intro s a s' hr
  exact absurd hr run_throw_ne_ok

theorem lift {x : Except ε α} (h : ∀ a, x = .ok a → pre a) :
    Ensures (liftM x : StateT σ (Except ε) α) pre := by
  intro s a s' hr
  exact h a (run_lift_eq_ok.mp hr).1

theorem bind (hd : Ensures d pre) (hf : ∀ a, pre a → Ensures (f a) post) :
    Ensures (d >>= f) post := by
  intro s b s' hr
  obtain ⟨a, s₁, h₁, h₂⟩ := run_bind_eq_ok.mp hr
  exact hf a (hd _ _ _ h₁) _ _ _ h₂

theorem weaken {pre' : α → Prop} (h : Ensures d pre) (hp : ∀ a, pre a → pre' a) :
    Ensures d pre' :=
  fun s a s' hr => hp a (h s a s' hr)

theorem and {pre' : α → Prop} (h : Ensures d pre) (h' : Ensures d pre') :
    Ensures d fun a => pre a ∧ pre' a :=
  fun s a s' hr => ⟨h s a s' hr, h' s a s' hr⟩

/-- Nothing need be known of the first of two computations. -/
theorem after (hf : ∀ a, Ensures (f a) post) : Ensures (d >>= f) post := by
  have hd : Ensures d fun _ => True := fun _ _ _ _ => trivial
  exact bind hd fun a _ => hf a

theorem throw_bind {e : ε} :
    Ensures ((MonadExcept.throw e : StateT σ (Except ε) α) >>= f) post := by
  have hd : Ensures (MonadExcept.throw e : StateT σ (Except ε) α) fun _ => False := throw
  exact bind hd fun _ h => h.elim

end Ensures

/-! ## What holds of an error -/

/-- Whenever `d` fails, it is with an error that is excused. -/
def FailsOnly (d : StateT σ (Except ε) α) (excused : ε → Prop) : Prop :=
  ∀ s e, d.run s = .error e → excused e

namespace FailsOnly

variable {d : StateT σ (Except ε) α} {f : α → StateT σ (Except ε) β} {pre : α → Prop}
  {excused : ε → Prop}

theorem pure {a : α} : FailsOnly (Pure.pure a : StateT σ (Except ε) α) excused := nofun

theorem throw {e : ε} (h : excused e) :
    FailsOnly (MonadExcept.throw e : StateT σ (Except ε) α) excused := by
  intro s e' hr
  obtain rfl := Except.error.inj hr
  exact h

theorem lift {x : Except ε α} (h : ∀ e, x = .error e → excused e) :
    FailsOnly (liftM x : StateT σ (Except ε) α) excused := by
  intro s e hr
  exact h e (run_lift_eq_error.mp hr)

/-- What the first computation ensures can be used for the second. -/
theorem bind (hd : FailsOnly d excused) (he : Ensures d pre)
    (hf : ∀ a, pre a → FailsOnly (f a) excused) : FailsOnly (d >>= f) excused := by
  intro s e hr
  rcases run_bind_eq_error.mp hr with h | ⟨a, s₁, h₁, h₂⟩
  · exact hd s e h
  · exact hf a (he _ _ _ h₁) s₁ e h₂

theorem andThen (hd : FailsOnly d excused) (hf : ∀ a, FailsOnly (f a) excused) :
    FailsOnly (d >>= f) excused := by
  have he : Ensures d fun _ => True := fun _ _ _ _ => trivial
  exact hd.bind he fun a _ => hf a

theorem throw_bind {e : ε} (h : excused e) :
    FailsOnly ((MonadExcept.throw e : StateT σ (Except ε) α) >>= f) excused := by
  have hd : Ensures (MonadExcept.throw e : StateT σ (Except ε) α) fun _ => False := .throw
  exact (throw h).bind hd fun _ h => h.elim

theorem weaken {excused' : ε → Prop} (h : FailsOnly d excused) (hw : ∀ e, excused e → excused' e) :
    FailsOnly d excused' :=
  fun s e hr => hw e (h s e hr)

end FailsOnly

/-! ## Readers -/

/-- `d` takes from the front of a list exactly what `write` gives for an admitted
value. -/
structure Reads (d : StateT (List τ) (Except ε) α) (write : α → List τ) (admits : α → Prop) :
    Prop where
  /-- What is written is read back, whatever follows it. -/
  run_write : ∀ {x}, admits x → ∀ rest, d.run (write x ++ rest) = .ok (x, rest)
  /-- Nothing else is read. -/
  of_run : ∀ {ts x rest}, d.run ts = .ok (x, rest) → admits x ∧ ts = write x ++ rest

/-- A reader whose results are given another form. -/
theorem Reads.map {d : StateT (List τ) (Except ε) α} {write : α → List τ} {admits : α → Prop}
    (h : Reads d write admits) {f : α → β} {g : β → α} (hf : ∀ a, admits a → g (f a) = a)
    (hg : ∀ b, admits (g b) ∧ f (g b) = b) :
    Reads (f <$> d) (fun b => write (g b)) (fun _ => True) where
  run_write := by
    intro b _ rest
    exact run_map_eq_ok.mpr ⟨g b, h.run_write (hg b).1 rest, (hg b).2⟩
  of_run := by
    intro ts b rest hr
    obtain ⟨a, hd, rfl⟩ := run_map_eq_ok.mp hr
    obtain ⟨ha, rfl⟩ := h.of_run hd
    refine ⟨trivial, ?_⟩
    show write a ++ rest = write (g (f a)) ++ rest
    rw [hf a ha]

/-! ## Readers and what follows -/

/-- A reader that has succeeded does not see what comes after: more items at the end
are left over, and nothing else changes. -/
def Steady (d : StateT (List τ) (Except ε) α) : Prop :=
  ∀ ts x rest, d.run ts = .ok (x, rest) → ∀ more, d.run (ts ++ more) = .ok (x, rest ++ more)

theorem Reads.steady {d : StateT (List τ) (Except ε) α} {write : α → List τ} {admits : α → Prop}
    (h : Reads d write admits) : Steady d := by
  intro ts x rest hr more
  obtain ⟨hx, rfl⟩ := h.of_run hr
  rw [List.append_assoc]
  exact h.run_write hx (rest ++ more)

namespace Steady

variable {d : StateT (List τ) (Except ε) α} {f : α → StateT (List τ) (Except ε) β}

theorem pure {a : α} : Steady (Pure.pure a : StateT (List τ) (Except ε) α) := by
  intro ts x rest hr more
  obtain ⟨rfl, rfl⟩ := run_pure_eq_ok.mp hr
  rfl

theorem throw {e : ε} : Steady (MonadExcept.throw e : StateT (List τ) (Except ε) α) := by
  intro ts x rest hr
  exact absurd hr run_throw_ne_ok

theorem bind (hd : Steady d) (hf : ∀ a, Steady (f a)) : Steady (d >>= f) := by
  intro ts y rest hr more
  obtain ⟨a, s₁, h₁, h₂⟩ := run_bind_eq_ok.mp hr
  exact run_bind_eq_ok.mpr ⟨a, s₁ ++ more, hd _ _ _ h₁ more, hf a _ _ _ h₂ more⟩

/-- Where a steady reader takes all there is, it fails on every shorter front. -/
theorem error_of_prefix (h : Steady d) {ts front : List τ} {x : α} (hr : d.run ts = .ok (x, []))
    (hp : front <+: ts) (hne : front ≠ ts) : ∃ e, d.run' front = .error e := by
  obtain ⟨more, rfl⟩ := hp
  cases hf : d.run' front with
  | error e => exact ⟨e, rfl⟩
  | ok y =>
    obtain ⟨rest, hrest⟩ := run'_eq_ok.mp hf
    -- nothing is left over of the whole, so nothing has been cut off
    have hall := h _ _ _ hrest more
    rw [hr] at hall
    have hnil : rest ++ more = [] := (congrArg Prod.snd (Except.ok.inj hall)).symm
    obtain ⟨-, rfl⟩ := List.append_eq_nil_iff.mp hnil
    exact absurd (List.append_nil front).symm hne

end Steady

end AntTrail
