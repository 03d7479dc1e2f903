/-! What the success or the failure of a sequence of computations says about its parts. -/

set_option autoImplicit false

namespace Primer

theorem List.mem_of_split {α : Type} {items front back : List α} {item : α}
    (split : items = front ++ item :: back) : item ∈ items := by
  rw [split]
  exact List.mem_append_right front List.mem_cons_self

theorem Except.bind_eq_ok {ε α β : Type} {work : Except ε α} {next : α → Except ε β} {result : β} :
    work >>= next = .ok result ↔ ∃ value, work = .ok value ∧ next value = .ok result := by
  constructor
  · intro ran
    cases work with
    | ok value => exact ⟨value, rfl, ran⟩
    | error error => cases ran
  · rintro ⟨value, rfl, ran⟩
    exact ran

theorem Except.length_of_mapM {ε α β : Type} {step : α → Except ε β} {items : List α}
    {results : List β} (ran : items.mapM step = .ok results) : results.length = items.length := by
  induction items generalizing results with
  | nil =>
    cases ran
    rfl
  | cons first rest ih =>
    rw [List.mapM_cons] at ran
    obtain ⟨result, -, ran⟩ := bind_eq_ok.mp ran
    obtain ⟨others, tail, ran⟩ := bind_eq_ok.mp ran
    cases ran
    exact congrArg Nat.succ (ih tail)

theorem EStateM.bind_eq_ok {ε σ α β : Type} {work : EStateM ε σ α} {next : α → EStateM ε σ β}
    {before after : σ} {result : β} :
    (work >>= next) before = .ok result after ↔
      ∃ value middle, work before = .ok value middle ∧ next value middle = .ok result after := by
  simp only [bind, EStateM.bind]
  constructor
  · intro ran
    cases first : work before with
    | ok value middle =>
      rw [first] at ran
      exact ⟨value, middle, rfl, ran⟩
    | error error middle =>
      rw [first] at ran
      cases ran
  · rintro ⟨value, middle, first, ran⟩
    rw [first]
    exact ran

theorem EStateM.bind_eq_error {ε σ α β : Type} {work : EStateM ε σ α} {next : α → EStateM ε σ β}
    {before after : σ} {error : ε} :
    (work >>= next) before = .error error after ↔
      work before = .error error after ∨
        ∃ value middle, work before = .ok value middle ∧
          next value middle = .error error after := by
  simp only [bind, EStateM.bind]
  constructor
  · intro ran
    cases first : work before with
    | ok value middle =>
      rw [first] at ran
      exact .inr ⟨value, middle, rfl, ran⟩
    | error other middle =>
      rw [first] at ran
      cases ran
      exact .inl rfl
  · rintro (failed | ⟨value, middle, first, failed⟩)
    · rw [failed]
    · rw [first]
      exact failed

theorem EStateM.mapM_cons_eq_ok {ε σ α β : Type} {step : α → EStateM ε σ β} {first : α}
    {rest : List α} {before after : σ} {results : List β} :
    (first :: rest).mapM step before = .ok results after ↔
      ∃ result others middle, step first before = .ok result middle ∧
        rest.mapM step middle = .ok others after ∧ results = result :: others := by
  rw [List.mapM_cons, EStateM.bind_eq_ok]
  constructor
  · rintro ⟨result, middle, head, ran⟩
    obtain ⟨others, last, tail, ran⟩ := EStateM.bind_eq_ok.mp ran
    cases ran
    exact ⟨result, others, middle, head, tail, rfl⟩
  · rintro ⟨result, others, middle, head, tail, rfl⟩
    exact ⟨result, middle, head, EStateM.bind_eq_ok.mpr ⟨others, after, tail, rfl⟩⟩

theorem EStateM.mapM_append_eq_ok {ε σ α β : Type} {step : α → EStateM ε σ β}
    {earlier later : List α} {before after : σ} {results : List β} :
    (earlier ++ later).mapM step before = .ok results after ↔
      ∃ done others middle, earlier.mapM step before = .ok done middle ∧
        later.mapM step middle = .ok others after ∧ results = done ++ others := by
  rw [List.mapM_append, EStateM.bind_eq_ok]
  constructor
  · rintro ⟨done, middle, doneRan, ran⟩
    obtain ⟨others, last, laterRan, ran⟩ := EStateM.bind_eq_ok.mp ran
    cases ran
    exact ⟨done, others, middle, doneRan, laterRan, rfl⟩
  · rintro ⟨done, others, middle, doneRan, laterRan, rfl⟩
    exact ⟨done, middle, doneRan, EStateM.bind_eq_ok.mpr ⟨others, after, laterRan, rfl⟩⟩

/-- A relation that every step establishes holds between the ends of a walk. -/
theorem EStateM.mapM_relates {ε σ α β : Type} {step : α → EStateM ε σ β}
    {motive : σ → σ → Prop} (refl : ∀ state, motive state state)
    (trans : ∀ first second third, motive first second → motive second third →
      motive first third)
    {items : List α} {before after : σ} {results : List β}
    (steps : ∀ item ∈ items, ∀ before result after, step item before = .ok result after →
      motive before after)
    (ran : items.mapM step before = .ok results after) : motive before after := by
  induction items generalizing before results with
  | nil =>
    cases ran
    exact refl _
  | cons first rest ih =>
    obtain ⟨_, _, middle, head, tail, -⟩ := mapM_cons_eq_ok.mp ran
    exact trans _ _ _ (steps _ List.mem_cons_self _ _ _ head)
      (ih (fun item member => steps item (List.mem_cons_of_mem _ member)) tail)

/-- What every step makes of its item, as long as it hands on what it starts from. -/
theorem EStateM.mapM_all {ε σ α β : Type} {step : α → EStateM ε σ β} {motive : σ → Prop}
    {good : β → Prop} {items : List α} {before after : σ} {results : List β}
    (steps : ∀ item ∈ items, ∀ before result after, step item before = .ok result after →
      motive before → good result ∧ motive after)
    (ran : items.mapM step before = .ok results after) (start : motive before) :
    (∀ result ∈ results, good result) ∧ motive after := by
  induction items generalizing before results with
  | nil =>
    cases ran
    exact ⟨nofun, start⟩
  | cons first rest ih =>
    obtain ⟨result, others, middle, head, tail, rfl⟩ := mapM_cons_eq_ok.mp ran
    obtain ⟨holds, between⟩ := steps _ List.mem_cons_self _ _ _ head start
    obtain ⟨all, last⟩ := ih (fun item member => steps item (List.mem_cons_of_mem _ member)) tail
      between
    refine ⟨fun other member => ?_, last⟩
    rcases List.mem_cons.mp member with rfl | later
    · exact holds
    · exact all other later

theorem EStateM.map_of_mapM {ε σ α β γ : Type} {step : α → EStateM ε σ β} {f : β → γ} {g : α → γ}
    {items : List α} {results : List β} {before after : σ}
    (ran : items.mapM step before = .ok results after)
    (keeps : ∀ item result before after, step item before = .ok result after →
      f result = g item) : results.map f = items.map g := by
  induction items generalizing before results with
  | nil =>
    cases ran
    rfl
  | cons first rest ih =>
    obtain ⟨result, others, middle, firstRan, restRan, rfl⟩ := mapM_cons_eq_ok.mp ran
    rw [List.map_cons, List.map_cons, keeps _ _ _ _ firstRan, ih restRan]

theorem EStateM.mapM_append {ε σ α β : Type} {step : α → EStateM ε σ β} {items : List α}
    {before after : σ} {done others : List β}
    (ran : items.mapM step before = .ok (done ++ others) after) :
    ∃ earlier later middle, items = earlier ++ later ∧ earlier.mapM step before = .ok done middle ∧
      later.mapM step middle = .ok others after := by
  induction done generalizing items before with
  | nil => exact ⟨[], items, before, rfl, rfl, ran⟩
  | cons head done ih =>
    cases items with
    | nil => cases ran
    | cons first rest =>
      obtain ⟨_, _, between, headRan, restRan, same⟩ := mapM_cons_eq_ok.mp ran
      cases same
      obtain ⟨earlier, later, middle, rfl, doneRan, laterRan⟩ := ih restRan
      exact ⟨first :: earlier, later, middle, rfl,
        mapM_cons_eq_ok.mpr ⟨head, done, between, headRan, doneRan, rfl⟩, laterRan⟩

theorem EStateM.length_of_mapM {ε σ α β : Type} {step : α → EStateM ε σ β} {items : List α}
    {before after : σ} {results : List β} (ran : items.mapM step before = .ok results after) :
    results.length = items.length := by
  induction items generalizing before results with
  | nil =>
    cases ran
    rfl
  | cons first rest ih =>
    obtain ⟨_, _, _, -, tail, rfl⟩ := mapM_cons_eq_ok.mp ran
    exact congrArg Nat.succ (ih tail)

/-- Every result of a successful walk comes from the item in its place, behind the walk over the
items before. -/
theorem EStateM.mapM_split {ε σ α β : Type} {step : α → EStateM ε σ β} {items : List α}
    {before after : σ} {done others : List β} {result : β}
    (ran : items.mapM step before = .ok (done ++ result :: others) after) :
    ∃ earlier item later middle next, items = earlier ++ item :: later ∧
      earlier.mapM step before = .ok done middle ∧ step item middle = .ok result next ∧
      later.mapM step next = .ok others after ∧ done.length = earlier.length := by
  obtain ⟨earlier, rest, middle, rfl, doneRan, restRan⟩ := mapM_append ran
  cases rest with
  | nil => cases restRan
  | cons item later =>
    obtain ⟨_, _, next, itemRan, laterRan, same⟩ := mapM_cons_eq_ok.mp restRan
    cases same
    exact ⟨earlier, item, later, middle, next, rfl, doneRan, itemRan, laterRan,
      length_of_mapM doneRan⟩

/-- What holds of each result just if something holds of its item. -/
theorem EStateM.forall_of_mapM {ε σ α β : Type} {step : α → EStateM ε σ β} {good : α → Prop}
    {fine : β → Prop} {items : List α} {results : List β} {start last : σ}
    (ran : items.mapM step start = .ok results last)
    (each : ∀ earlier item later done before result after, items = earlier ++ item :: later →
      earlier.mapM step start = .ok done before → step item before = .ok result after →
      (fine result ↔ good item)) :
    (∀ result ∈ results, fine result) ↔ ∀ item ∈ items, good item := by
  constructor
  · intro all item member
    obtain ⟨earlier, later, rfl⟩ := List.append_of_mem member
    obtain ⟨done, _, before, doneRan, restRan, rfl⟩ := mapM_append_eq_ok.mp ran
    obtain ⟨result, others, after, itemRan, -, rfl⟩ := mapM_cons_eq_ok.mp restRan
    exact (each earlier item later done before result after rfl doneRan itemRan).mp
      (all result (List.mem_append_right _ List.mem_cons_self))
  · intro all result member
    obtain ⟨done, others, rfl⟩ := List.append_of_mem member
    obtain ⟨earlier, item, later, before, after, rfl, doneRan, itemRan, -, -⟩ := mapM_split ran
    exact (each earlier item later done before result after rfl doneRan itemRan).mpr
      (all item (List.mem_append_right _ List.mem_cons_self))

/-! ### Whether there is a result or not -/

def EStateM.Across {ε σ α : Type} (related : σ → σ → Prop) (work : EStateM ε σ α) : Prop :=
  ∀ before, match work before with
    | .ok _ after | .error _ after => related before after

namespace EStateM.Across

variable {ε σ α β : Type} {related : σ → σ → Prop} {work : EStateM ε σ α} {before after : σ}

theorem of_ok {result : α} (across : Across related work)
    (ran : work before = .ok result after) : related before after := by
  have holds := across before
  rwa [ran] at holds

theorem of_error {error : ε} (across : Across related work)
    (ran : work before = .error error after) : related before after := by
  have holds := across before
  rwa [ran] at holds

theorem mono {larger : σ → σ → Prop} (across : Across related work)
    (inclusion : ∀ before after, related before after → larger before after) :
    Across larger work := by
  intro before
  split
  · next ran => exact inclusion _ _ (across.of_ok ran)
  · next ran => exact inclusion _ _ (across.of_error ran)

theorem bind {next : α → EStateM ε σ β}
    (trans : ∀ {first second third}, related first second → related second third →
      related first third)
    (front : Across related work) (back : ∀ value, Across related (next value)) :
    Across related (work >>= next) := by
  intro before
  split
  · next ran =>
    obtain ⟨value, middle, frontRan, backRan⟩ := EStateM.bind_eq_ok.mp ran
    exact trans (front.of_ok frontRan) ((back value).of_ok backRan)
  · next ran =>
    rcases EStateM.bind_eq_error.mp ran with failed | ⟨value, middle, frontRan, failed⟩
    · exact front.of_error failed
    · exact trans (front.of_ok frontRan) ((back value).of_error failed)

end EStateM.Across

end Primer
