import Sniff4Hound.Limits.ResourceGuard
import Mathlib.Tactic.Linarith

/-!
# What the guard starts and stops

The guard remembers that it is pausing, and does not look at the commands of the operator. A pause
that begins while the capture is stopped, or during which the operator stops it, still ends in a
start (`unwarranted_start`), and a capture that the operator starts during a pause is left running
over its limits (`left_running`). `starts_warranted` and `over_limit_stopped_iff` say when the guard
does what it should.
-/

namespace Sniff4Hound.Limits

/-! ## Limits -/

theorem LimitField.bounds_ordered (field : LimitField) : field.bounds.1 ≤ field.bounds.2 := by
  cases field <;> decide

theorem get_limit_config_mem (rt : Runtime) (config : RuntimeConfig) (field : LimitField) :
    field.bounds.1 ≤ get_limit_config rt config field ∧
      get_limit_config rt config field ≤ field.bounds.2 := by
  have hOrdered := field.bounds_ordered
  unfold get_limit_config
  dsimp only
  constructor
  · exact le_min hOrdered (le_max_left _ _)
  · exact min_le_left _ _

theorem limits_nonneg (rt : Runtime) (p : Process) (kind : LimitKind) : 0 ≤ p.limits rt kind := by
  have hMem := get_limit_config_mem rt p.runtime_config kind.field
  unfold Process.limits
  cases kind <;> exact hMem.1

theorem not_exceeds_of_below {limits : PerKind Int} {measured : PerKind Rat} {percent : Int}
    (hLimits : ∀ kind, 0 ≤ limits kind) (hPercent : percent ≤ 99)
    (h : below_resume limits measured percent = true) (kind : LimitKind) :
    ¬exceeds limits measured kind := by
  intro hOver
  have hKind : kind ∈ LIMIT_KINDS := by cases kind <;> decide
  have hBelow := List.all_eq_true.mp h kind hKind
  simp only [ne_eq, Bool.not_and, decide_not, Bool.not_not, Bool.or_eq_true, decide_eq_true_eq,
    Bool.not_eq_true', decide_eq_false_iff_not, not_le] at hBelow
  have hUnder := hBelow.resolve_left hOver.1
  have hLimit : (0 : Rat) ≤ limits kind := by exact_mod_cast hLimits kind
  have hShare : (percent : Rat) ≤ 99 := by exact_mod_cast hPercent
  have hOverLimit := hOver.2
  nlinarith

/-! ## One sample -/

namespace Process

variable (rt : Runtime) (round : Rat → Rat) {p q : Process} {s : Sample}

def Trips (p : Process) (s : Sample) : Prop :=
  exceededKinds (p.limits rt) s.measured p.resource_guard.over_limit ≠ [] ∧
    p.resource_guard.paused_by_guard = false

instance (p : Process) (s : Sample) : Decidable (p.Trips rt s) :=
  inferInstanceAs (Decidable (_ ∧ _))

def Resumes (p : Process) (s : Sample) : Prop :=
  p.resource_guard.paused_by_guard = true ∧
    (get_limit_config rt p.runtime_config .cooldown_seconds : Rat) ≤
      s.now - p.resource_guard.paused_since ∧
    below_resume (p.limits rt) s.measured
      (get_limit_config rt p.runtime_config .resume_percent) = true

theorem persist_running (p : Process) (now : Rat) (busy : Bool) :
    (p.persist now busy).running = p.running ∧ (p.persist now busy).issued = p.issued ∧
      (p.persist now busy).resource_guard.paused_by_guard = p.resource_guard.paused_by_guard ∧
      (p.persist now busy).resource_guard.over_limit = p.resource_guard.over_limit := by
  unfold persist
  split <;> exact ⟨rfl, rfl, rfl, rfl⟩

theorem sample_over (p : Process) (s : Sample) :
    (p.sample rt round s).resource_guard.over_limit =
      countOver (p.limits rt) s.measured p.resource_guard.over_limit := by
  unfold sample
  dsimp only
  split_ifs
  · exact (persist_running _ _ _).2.2.2
  · exact (persist_running _ _ _).2.2.2
  · exact (persist_running _ _ _).2.2.2
  · rfl

theorem sample_cases (p : Process) (s : Sample) :
    (p.Trips rt s ∧ (p.sample rt round s).running = false ∧
      (p.sample rt round s).resource_guard.paused_by_guard = true ∧
      (p.sample rt round s).issued = p.issued ++ [⟨.resourceGuard, .stop, p.running⟩]) ∨
    (p.Resumes rt s ∧ (p.sample rt round s).running = true ∧
      (p.sample rt round s).resource_guard.paused_by_guard = false ∧
      (p.sample rt round s).issued = p.issued ++ [⟨.resourceGuard, .start, p.running⟩]) ∨
    (¬p.Trips rt s ∧ ¬p.Resumes rt s ∧ (p.sample rt round s).running = p.running ∧
      (p.sample rt round s).resource_guard.paused_by_guard = p.resource_guard.paused_by_guard ∧
      (p.sample rt round s).issued = p.issued) := by
  unfold sample
  dsimp only
  split_ifs with hTrip hResume hWrite
  · left
    obtain ⟨hRunning, hIssued, hPaused, -⟩ := persist_running ((p.note (p.limits rt)
      s.measured).trip (exceededKinds (p.limits rt) s.measured p.resource_guard.over_limit) s.now
        s.measured (p.limits rt)) s.now s.busy
    exact ⟨⟨hTrip.1, by simpa [note] using hTrip.2⟩, hRunning, hPaused, hIssued⟩
  · right; left
    obtain ⟨hRunning, hIssued, hPaused, -⟩ :=
      persist_running ((p.note (p.limits rt) s.measured).resume round s.now) s.now s.busy
    exact ⟨hResume, hRunning, hPaused, hIssued⟩
  · right; right
    obtain ⟨hRunning, hIssued, hPaused, -⟩ :=
      persist_running (p.note (p.limits rt) s.measured) s.now s.busy
    refine ⟨?_, hResume, hRunning, hPaused, hIssued⟩
    intro h
    exact hTrip ⟨h.1, by simpa [note] using h.2⟩
  · right; right
    refine ⟨?_, hResume, rfl, rfl, rfl⟩
    intro h
    exact hTrip ⟨h.1, by simpa [note] using h.2⟩

/-! ## Starts that are warranted -/

def Warranted (issued : List Issued) : Prop :=
  (issued.filter fun c => c.command = .stop).getLast? = some ⟨.resourceGuard, .stop, true⟩

instance (issued : List Issued) : Decidable (Warranted issued) :=
  inferInstanceAs (Decidable (_ = _))

/-- Every start by the guard undoes a stop by the guard. -/
def StartsWarranted (p : Process) : Prop :=
  StepRun.Ordered (fun before c => c.origin = .resourceGuard → c.command = .start →
    Warranted before) p.issued

/-- The guard begins pauses only while the capture runs, and the operator does not stop it
during a pause. -/
def Careful (p : Process) : Label → Prop
  | .sample s => p.Trips rt s → p.running = true
  | .give .stop => p.resource_guard.paused_by_guard = false
  | _ => True

instance (p : Process) : (label : Label) → Decidable (Careful rt p label)
  | .sample s => inferInstanceAs (Decidable (p.Trips rt s → p.running = true))
  | .give .stop => inferInstanceAs (Decidable (p.resource_guard.paused_by_guard = false))
  | .give .start => inferInstanceAs (Decidable True)
  | .configure _ => inferInstanceAs (Decidable True)

structure Sound (p : Process) : Prop where
  starts : p.StartsWarranted
  pause : p.resource_guard.paused_by_guard = true → Warranted p.issued

theorem Warranted.snoc {issued : List Issued} (h : Warranted issued) {c : Issued}
    (hc : c.command ≠ .stop) : Warranted (issued ++ [c]) := by
  unfold Warranted
  rw [List.filter_append, List.filter_cons_of_neg (by simpa using hc), List.filter_nil,
    List.append_nil]
  exact h

theorem warranted_stop (issued : List Issued) :
    Warranted (issued ++ [⟨.resourceGuard, .stop, true⟩]) := by
  unfold Warranted
  simp

theorem Started.sound (h : p.Started) : p.Sound := by
  obtain ⟨stored, hGuard⟩ := h.resource_guard
  constructor
  · unfold StartsWarranted
    rw [h.issued]
    exact StepRun.Ordered.nil _
  · intro hPaused
    rw [hGuard] at hPaused
    cases hPaused

theorem Sound.give (h : p.Sound) {command : Command}
    (hStop : command = .stop → p.resource_guard.paused_by_guard = false) :
    (p.give .operator command).Sound := by
  constructor
  · exact h.starts.snoc nofun
  · intro hPaused
    have hPaused : p.resource_guard.paused_by_guard = true := hPaused
    apply (h.pause hPaused).snoc
    intro hCommand
    rw [hStop hCommand] at hPaused
    cases hPaused

theorem Sound.sample (h : p.Sound) (hCareful : p.Trips rt s → p.running = true) :
    (p.sample rt round s).Sound := by
  rcases sample_cases rt round p s with ⟨hTrip, -, -, hIssued⟩ | ⟨hResume, -, hPaused, hIssued⟩ |
    ⟨-, -, -, hPaused, hIssued⟩
  · constructor
    · unfold StartsWarranted
      rw [hIssued]
      exact h.starts.snoc nofun
    · intro _
      rw [hIssued, hCareful hTrip]
      exact warranted_stop p.issued
  · constructor
    · unfold StartsWarranted
      rw [hIssued]
      exact h.starts.snoc fun _ _ => h.pause hResume.1
    · intro hPause
      rw [hPaused] at hPause
      cases hPause
  · constructor
    · unfold StartsWarranted
      rw [hIssued]
      exact h.starts
    · rw [hPaused, hIssued]
      exact h.pause

theorem Sound.step (h : p.Sound) {label : Label} (hCareful : Careful rt p label)
    (hStep : p.step rt round label = some q) : q.Sound := by
  cases label with
  | sample s =>
    cases hStep
    exact h.sample rt round hCareful
  | give command =>
    cases hStep
    apply h.give
    rintro rfl
    exact hCareful
  | configure values =>
    unfold Process.step at hStep
    dsimp only at hStep
    split at hStep
    · cases hStep
      exact ⟨h.starts, h.pause⟩
    · cases hStep
      exact h

/-! ## Samples over a limit -/

def Counted (p : Process) : Prop :=
  p.resource_guard.paused_by_guard = false → ∀ kind, p.resource_guard.over_limit kind ≤ 1

theorem Started.counted (h : p.Started) : p.Counted := by
  obtain ⟨stored, hGuard⟩ := h.resource_guard
  intro _ kind
  rw [hGuard]
  exact Nat.zero_le 1

theorem mem_exceededKinds {limits : PerKind Int} {measured : PerKind Rat} {counts : PerKind Nat}
    {kind : LimitKind} :
    kind ∈ exceededKinds limits measured counts ↔ exceeds limits measured kind ∧ counts kind = 1 := by
  have hKind : kind ∈ LIMIT_KINDS := by cases kind <;> decide
  unfold exceededKinds TRIP_SAMPLES
  simp only [List.mem_filter, hKind, true_and, decide_eq_true_eq]
  constructor <;> intro h <;> refine ⟨h.1, ?_⟩ <;> omega

theorem Counted.sample (h : p.Counted) : (p.sample rt round s).Counted := by
  intro hPaused kind
  rw [sample_over]
  unfold countOver
  split
  · rename_i hOver
    rcases sample_cases rt round p s with ⟨-, -, hTrip, -⟩ | ⟨hResume, -⟩ | ⟨hNoTrip, -, -, hSame, -⟩
    · rw [hTrip] at hPaused
      cases hPaused
    · have hPercent := (get_limit_config_mem rt p.runtime_config .resume_percent).2
      exact absurd hOver (not_exceeds_of_below (limits_nonneg rt p) hPercent hResume.2.2 kind)
    · have hIdle : p.resource_guard.paused_by_guard = false := hSame ▸ hPaused
      have hOne : p.resource_guard.over_limit kind ≠ 1 := by
        intro hOne
        exact hNoTrip ⟨List.ne_nil_of_mem (mem_exceededKinds.mpr ⟨hOver, hOne⟩), hIdle⟩
      have := h hIdle kind
      omega
  · exact Nat.zero_le 1

theorem step_frame {label : Label} (hLabel : ∀ s, label ≠ .sample s)
    (hStep : p.step rt round label = some q) : q.resource_guard = p.resource_guard := by
  cases label with
  | sample s => exact absurd rfl (hLabel s)
  | give command =>
    cases hStep
    rfl
  | configure values =>
    unfold step at hStep
    dsimp only at hStep
    split at hStep <;> (cases hStep; rfl)

theorem Counted.step (h : p.Counted) {label : Label} (hStep : p.step rt round label = some q) :
    q.Counted := by
  by_cases hSample : ∃ s, label = .sample s
  · obtain ⟨s, rfl⟩ := hSample
    cases hStep
    exact h.sample rt round
  · unfold Counted
    rw [step_frame rt round (fun s hs => hSample ⟨s, hs⟩) hStep]
    exact h

theorem run_frame {labels : List Label} (hLabels : ∀ label ∈ labels, ∀ s, label ≠ .sample s)
    (hRun : StepRun.run (Process.step rt round) p labels = some q) :
    q.resource_guard = p.resource_guard := by
  induction labels generalizing p with
  | nil =>
    cases hRun
    rfl
  | cons label labels ih =>
    rw [StepRun.run_cons] at hRun
    obtain ⟨t, hStep, hRest⟩ := Option.bind_eq_some_iff.mp hRun
    rw [ih (fun l hl => hLabels l (List.mem_cons_of_mem _ hl)) hRest]
    exact step_frame rt round (hLabels label List.mem_cons_self) hStep

end Process

open Process in
/-- As long as no pause begins while the capture is stopped and the operator does not stop it
during a pause, the guard starts only what it has stopped itself. -/
theorem starts_warranted (rt : Runtime) (round : Rat → Rat) {p q : Process} (hStart : p.Started)
    {labels : List Label}
    (hRun : StepRun.run (StepRun.guarded (Careful rt) (Process.step rt round)) p labels = some q) :
    q.StartsWarranted := by
  have hInv : StepRun.Invariant (StepRun.guarded (Careful rt) (Process.step rt round)) Sound := by
    intro p label q h hStep
    obtain ⟨hCareful, hStep⟩ := StepRun.guarded_eq_some.mp hStep
    exact h.step rt round hCareful hStep
  exact (hInv.run hStart.sound hRun).starts

def limitedCapture (running : Bool) : Process where
  runtime_config := [("limit_ram_mb", "100")]
  running := running
  resource_guard := ResourceGuard.start {}
  stored := {}
  issued := []

theorem limitedCapture_started (running : Bool) : (limitedCapture running).Started :=
  ⟨⟨{}, rfl⟩, rfl⟩

def memorySample (now ram : Rat) : Sample where
  now := now
  measured
    | .ram => ram
    | _ => 0
  busy := false

def pauseLabels (during : List Label) : List Label :=
  [.sample (memorySample 5 120), .sample (memorySample 10 120)] ++ during ++
    [.sample (memorySample 400 20)]

open Process in
theorem starts_warranted_pause :
    (StepRun.run (StepRun.guarded (Careful Runtime.ascii) (Process.step Runtime.ascii id))
        (limitedCapture true) (pauseLabels [])).map (fun q => q.issued) =
      some [⟨.resourceGuard, .stop, true⟩, ⟨.resourceGuard, .start, false⟩] ∧
    ∀ q, StepRun.run (StepRun.guarded (Careful Runtime.ascii) (Process.step Runtime.ascii id))
        (limitedCapture true) (pauseLabels []) = some q → q.StartsWarranted :=
  ⟨by decide +kernel, fun _ hRun => starts_warranted Runtime.ascii id
    (limitedCapture_started true) hRun⟩

/-- A pause that begins while the capture is stopped ends in a start, and so does one during which
the operator stops the capture. -/
theorem unwarranted_start :
    (∃ q, StepRun.run (Process.step Runtime.ascii id) (limitedCapture false) (pauseLabels []) =
      some q ∧ ¬q.StartsWarranted) ∧
    ∃ q, StepRun.run (Process.step Runtime.ascii id) (limitedCapture true)
      (pauseLabels [.give .stop]) = some q ∧ ¬q.StartsWarranted := by
  constructor
  · refine ⟨_, rfl, ?_⟩
    intro h
    have hWarranted := h [⟨.resourceGuard, .stop, false⟩] ⟨.resourceGuard, .start, false⟩ []
      (by decide +kernel) rfl rfl
    exact absurd hWarranted (by decide)
  · refine ⟨_, rfl, ?_⟩
    intro h
    have hWarranted := h [⟨.resourceGuard, .stop, true⟩, ⟨.operator, .stop, false⟩]
      ⟨.resourceGuard, .start, false⟩ [] (by decide +kernel) rfl rfl
    exact absurd hWarranted (by decide)

open Process in
/-- A kind is over its limit on two consecutive samples, with any commands and edits between them,
and the capture runs at the second: that sample stops the capture just when the guard does not take
itself to be pausing. -/
theorem over_limit_stopped_iff (rt : Runtime) (round : Rat → Rat) {p q r : Process}
    {front between : List Label} {first second : Sample} {kind : LimitKind} (hStart : p.Started)
    (hFront : StepRun.run (Process.step rt round) p front = some q)
    (hFirst : exceeds (q.limits rt) first.measured kind)
    (hLabels : ∀ label ∈ between, ∀ s, label ≠ .sample s)
    (hBetween : StepRun.run (Process.step rt round) (q.sample rt round first) between = some r)
    (hRunsOn : r.running = true) (hSecond : exceeds (r.limits rt) second.measured kind) :
    (r.sample rt round second).running = false ↔ r.resource_guard.paused_by_guard = false := by
  have hInv : StepRun.Invariant (Process.step rt round) Counted :=
    fun _ _ _ h hStep => h.step rt round hStep
  have hFrame := run_frame rt round hLabels hBetween
  have hCounted : (q.sample rt round first).Counted :=
    (hInv.run hStart.counted hFront).sample rt round
  constructor
  · intro hStopped
    by_contra hPaused
    rcases sample_cases rt round r second with ⟨hTrip, -⟩ | ⟨-, hOn, -⟩ | ⟨-, -, hSame, -⟩
    · exact hPaused hTrip.2
    · rw [hOn] at hStopped
      cases hStopped
    · rw [hSame, hRunsOn] at hStopped
      cases hStopped
  · intro hIdle
    have hLe : r.resource_guard.over_limit kind ≤ 1 := by
      rw [hFrame]
      exact hCounted (hFrame ▸ hIdle) kind
    have hOver : r.resource_guard.over_limit kind = q.resource_guard.over_limit kind + 1 := by
      rw [hFrame, sample_over]
      exact if_pos hFirst
    have hMem : kind ∈ exceededKinds (r.limits rt) second.measured r.resource_guard.over_limit := by
      rw [mem_exceededKinds]
      exact ⟨hSecond, by omega⟩
    rcases sample_cases rt round r second with ⟨-, hOff, -⟩ | ⟨hResume, -⟩ | ⟨hNoTrip, -⟩
    · exact hOff
    · exact absurd hResume.1 (by simp [hIdle])
    · exact absurd ⟨List.ne_nil_of_mem hMem, hIdle⟩ hNoTrip

theorem over_limit_stopped_iff_first :
    (((limitedCapture true).sample Runtime.ascii id (memorySample 5 120)).sample Runtime.ascii id
        (memorySample 10 120)).running = false ↔
      ((limitedCapture true).sample Runtime.ascii id
        (memorySample 5 120)).resource_guard.paused_by_guard = false :=
  @over_limit_stopped_iff Runtime.ascii id _ _ _ [] [] _ _ .ram (limitedCapture_started true) rfl
    (by decide +kernel) nofun rfl (by decide +kernel) (by decide +kernel)

/-- The limit stops the capture, the operator starts it again, and it runs on over the limit. -/
theorem left_running :
    ∃ q, StepRun.run (Process.step Runtime.ascii id) (limitedCapture true)
        [.sample (memorySample 5 120), .sample (memorySample 10 120), .give .start] = some q ∧
      q.running = true ∧ exceeds (q.limits Runtime.ascii) (memorySample 15 120).measured .ram ∧
      (q.sample Runtime.ascii id (memorySample 15 120)).running = true ∧
      exceeds ((q.sample Runtime.ascii id (memorySample 15 120)).limits Runtime.ascii)
        (memorySample 20 120).measured .ram ∧
      ((q.sample Runtime.ascii id (memorySample 15 120)).sample Runtime.ascii id
        (memorySample 20 120)).running = true :=
  ⟨_, rfl, by decide +kernel, by decide +kernel, by decide +kernel, by decide +kernel,
    by decide +kernel⟩

end Sniff4Hound.Limits
