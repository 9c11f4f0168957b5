import AntTrail.Transcript
import AntTrail.Proofs.Course.Budget
import AntTrail.Proofs.Program.Simulation
import AntTrail.Proofs.Program.Walk

/-!
# Transcripts are exact

A program that is run with a transcript does what it does without one
(`Transcript.complete_alike`), and the entries are the actions that it takes, none missing
and none added, each with the trial as it is after the actions up to there
(`Transcript.Faithful`, `Transcript.Walks.trial`).
-/
namespace AntTrail.Transcript

/-- The actions that have been entered, in order. -/
def actions (s : Transcript) : List Action := s.entries.toList.map Prod.fst

theorem length_actions (s : Transcript) : s.actions.length = s.entries.size := by
  simp [actions]

/-- The transcript of a trial that began as `t₀`: acting out the entered actions gives the
trial as it is, and the first of them give what is entered beside the last of these. -/
structure Faithful (t₀ : Trial) (s : Transcript) : Prop where
  trial : s.actions.foldlM Trial.act t₀ = .ok s.trial
  entry : ∀ k a t, s.entries[k]? = some (a, t) →
    (s.actions.take (k + 1)).foldlM Trial.act t₀ = .ok t
  stepsLeft : (s.entries.size : Int) = t₀.stepsLeft.toInt - s.trial.stepsLeft.toInt

variable {t₀ t : Trial} {s s' : Transcript} {a : Action}

/-! ## One request -/

theorem act_eq_ok :
    Ant.act a s = .ok s' ↔ ∃ t, s.trial.act a = .ok t ∧ s' = ⟨t, s.entries.push (a, t)⟩ := by
  show (s.trial.act a >>= _) = _ ↔ _
  rw [bind_eq_ok]
  exact exists_congr fun t => and_congr_right fun _ => pure_eq_ok.trans eq_comm

/-- Looking ahead enters nothing. -/
theorem foodAhead_eq_ok {food : Bool} :
    Ant.foodAhead s = .ok (food, s') ↔ s.trial.foodAhead = .ok food ∧ s' = s := by
  show (s.trial.foodAhead >>= _) = _ ↔ _
  rw [bind_eq_ok]
  constructor
  · rintro ⟨b, hb, h⟩
    obtain ⟨rfl, rfl⟩ := Prod.mk.inj (pure_eq_ok.mp h)
    exact ⟨hb, rfl⟩
  · rintro ⟨hb, rfl⟩
    exact ⟨food, hb, rfl⟩

theorem actions_push {entries : Array (Action × Trial)} :
    actions ⟨t, entries.push (a, t)⟩ = entries.toList.map Prod.fst ++ [a] := by
  simp [actions]

theorem Faithful.begin (t₀ : Trial) : Faithful t₀ { trial := t₀ } where
  trial := rfl
  entry := by simp
  stepsLeft := by simp

/-- An action that is entered with the trial after it keeps the transcript faithful. -/
theorem Faithful.act (h : s.Faithful t₀) (ha : s.trial.act a = .ok t) :
    Faithful t₀ ⟨t, s.entries.push (a, t)⟩ := by
  have hall : (s.actions ++ [a]).foldlM Trial.act t₀ = .ok t := by
    rw [List.foldlM_append, h.trial, ok_bind, List.foldlM_cons, ha]
    rfl
  refine ⟨by rw [actions_push]; exact hall, fun k b u hk => ?_, ?_⟩
  · rw [actions_push]
    show ((s.actions ++ [a]).take (k + 1)).foldlM Trial.act t₀ = .ok u
    rw [Array.getElem?_push] at hk
    by_cases hlast : k = s.entries.size
    · -- the new entry stands beside all actions
      rw [if_pos hlast] at hk
      obtain ⟨rfl, rfl⟩ := Prod.mk.inj (Option.some.inj hk)
      rw [List.take_of_length_le (by simp [length_actions, hlast])]
      exact hall
    · rw [if_neg hlast] at hk
      obtain ⟨hlt, -⟩ := Array.getElem?_eq_some_iff.mp hk
      rw [List.take_append_of_le_length (by rw [length_actions]; omega)]
      exact h.entry k b u hk
  · have hspent := Trial.stepsLeft_act ha
    have hsteps := h.stepsLeft
    show ((s.entries.push (a, t)).size : Int) = t₀.stepsLeft.toInt - t.stepsLeft.toInt
    rw [Array.size_push]
    omega

/-! ## A whole run -/

/-- With a transcript, an ant acts and sees as without one. -/
theorem simulation (t₀ : Trial) :
    Ant.Simulation id fun (t : Trial) (s : Transcript) => s.trial = t ∧ s.Faithful t₀ where
  act := by
    rintro a t s ⟨rfl, hs⟩
    show Alike _ (s.trial.act a) (s.trial.act a >>= _)
    cases h : s.trial.act a with
    | error e => exact .error e
    | ok t => exact .ok ⟨rfl, hs.act h⟩
  foodAhead := by
    rintro t s ⟨rfl, hs⟩
    show Alike _ (s.trial.foodAhead >>= _) (s.trial.foodAhead >>= _)
    cases s.trial.foodAhead with
    | error e => exact .error e
    | ok food => exact .ok ⟨rfl, rfl, hs⟩

/-- A program ends alike with and without a transcript, which is faithful at the end. -/
theorem complete_alike (p : Program) (t₀ : Trial) :
    Alike (fun x y => (y.1.trial = x.1 ∧ y.1.Faithful t₀) ∧ x.2 = y.2)
      (p.complete Trial.finished t₀)
      (p.complete (fun s : Transcript => s.trial.finished) { trial := t₀ }) := by
  have hfin : ∀ (t : Trial) (s : Transcript), s.trial = t ∧ s.Faithful t₀ →
      t.finished = s.trial.finished := by
    rintro _ s ⟨rfl, -⟩
    rfl
  have h := (simulation t₀).complete hfin p ⟨rfl, Faithful.begin t₀⟩
  rwa [Program.mapActions_id] at h

variable {p : Program} {as : List Action} {n : Nat}

/-- A pass takes the same actions of the trial, and these are what it enters. -/
theorem Takes.trial (h : p.Takes s as s') :
    p.Takes s.trial as s'.trial ∧ s'.actions = s.actions ++ as := by
  induction h with
  | action h =>
    obtain ⟨t, ht, rfl⟩ := act_eq_ok.mp h
    exact ⟨.action ht, actions_push⟩
  | food h _ ih =>
    obtain ⟨hf, rfl⟩ := foodAhead_eq_ok.mp h
    exact ⟨.food (bind_eq_ok.mpr ⟨true, hf, rfl⟩) ih.1, ih.2⟩
  | other h _ ih =>
    obtain ⟨hf, rfl⟩ := foodAhead_eq_ok.mp h
    exact ⟨.other (bind_eq_ok.mpr ⟨false, hf, rfl⟩) ih.1, ih.2⟩
  | seq2 _ _ ihp ihq =>
    refine ⟨.seq2 ihp.1 ihq.1, ?_⟩
    rw [ihq.2, ihp.2, List.append_assoc]
  | seq3 _ _ _ ihp ihq ihr =>
    refine ⟨.seq3 ihp.1 ihq.1 ihr.1, ?_⟩
    rw [ihr.2, ihq.2, ihp.2, List.append_assoc, List.append_assoc, List.append_assoc]

theorem Walks.trial (h : p.Walks (fun s : Transcript => s.trial.finished) s n as s') :
    p.Walks Trial.finished s.trial n as s'.trial ∧ s'.actions = s.actions ++ as := by
  induction h with
  | stop h => exact ⟨.stop h, (List.append_nil _).symm⟩
  | pass h hp _ ih =>
    obtain ⟨ht, hact⟩ := Takes.trial hp
    refine ⟨.pass h ht ih.1, ?_⟩
    rw [ih.2, hact, List.append_assoc]

/-- A transcript changes nothing and misses nothing. Where a program can be evaluated, its
run with a transcript makes the same passes and ends in the same trial as its run without
one, which is what the outcome tells. The actions that the passes take are entered one by
one, as many as the budget has lost steps, each with the trial that the bare ant is left in
by the actions up to there. Looking ahead enters nothing. -/
theorem ofProgram_faithful {c : Course} {o : Outcome} (h : c.evaluate p = .ok o) :
    ∃ t₀ s as, c.trial = .ok t₀ ∧ ofProgram c p = .ok (s, o.passes) ∧
      p.complete Trial.finished t₀ = .ok (s.trial, o.passes) ∧
      o = ⟨s.trial.score, s.trial.foodEaten, s.trial.stepsLeft, o.passes⟩ ∧
      p.Walks Trial.finished t₀ o.passes as s.trial ∧
      s.entries.size = as.length ∧
      (s.entries.size : Int) = c.settings.maxSteps.toInt - o.stepsLeft.toInt ∧
      (∀ k a t, s.entries[k]? = some (a, t) →
        as[k]? = some a ∧ (as.take (k + 1)).foldlM Trial.act t₀ = .ok t) ∧
      ∀ (r r' : Transcript) (food : Bool), Ant.foodAhead r = .ok (food, r') → r' = r := by
  obtain ⟨t₀, t, ht₀, hrun, ho⟩ := Course.evaluate_eq_ok h
  obtain ⟨⟨s, n⟩, hobserved, ⟨ht, hs⟩, hn⟩ := (complete_alike p t₀).exists_ok hrun
  obtain rfl : s.trial = t := ht
  obtain rfl : o.passes = n := hn
  obtain ⟨-, as, hw⟩ := Program.complete_eq_ok_iff.mp hobserved
  obtain ⟨hwalk, hactions⟩ := Walks.trial hw
  obtain rfl : s.actions = as := hactions
  obtain ⟨-, -, -, hbudget, -⟩ := Trial.start_spec ht₀
  refine ⟨t₀, s, s.actions, ht₀, bind_eq_ok.mpr ⟨t₀, ht₀, hobserved⟩, hrun, ho, hwalk,
    s.length_actions.symm, ?_, fun k a t hk => ⟨?_, hs.entry k a t hk⟩,
    fun r r' food hr => (foodAhead_eq_ok.mp hr).2⟩
  · rw [ho, ← hbudget]
    exact hs.stepsLeft
  · rw [actions, List.getElem?_map, Array.getElem?_toList, hk]
    rfl

theorem ofProgram_faithful_patch :
    ∃ c s, Course.ofBoard Course.patch { maxSteps := 5, maxFood := none } = .ok c ∧
      c.evaluate (.ifFood (.action .move) (.seq2 (.action .turnLeft) (.action .move))) =
        .ok ⟨0, 2, 1, 2⟩ ∧
      ofProgram c (.ifFood (.action .move) (.seq2 (.action .turnLeft) (.action .move))) =
        .ok (s, 2) ∧
      s.entries.size = 4 ∧ s.trial.foodEaten = 2 := by
  have heval : Course.evaluate ⟨Course.patch, { maxSteps := 5, maxFood := none }, 2⟩
      (.ifFood (.action .move) (.seq2 (.action .turnLeft) (.action .move))) =
        .ok ⟨0, 2, 1, 2⟩ := eq_ok_of_toOption (by decide +kernel)
  obtain ⟨t₀, s, as, -, hs, -, ho, -, -, hsize, -⟩ := ofProgram_faithful heval
  exact ⟨_, s, rfl, heval, hs, Int.ofNat_inj.mp hsize, (congrArg Outcome.foodEaten ho).symm⟩

end AntTrail.Transcript
