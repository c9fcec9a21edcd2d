/-
Devices are watched one after the other, and each of them as if it were the
only one. A call takes its reply from the queue of its own device, so a poll
leaves every other device with the replies that it had, and the poll of a
device depends on nothing else. From this, what is done to many devices is
told by what would be done to each alone: one run behind the other, up to the
first that fails.
-/
import Mathlib.Data.List.Perm.Basic
import RouteWatch.Proofs.Device.Replay
import RouteWatch.Proofs.Poll.Watch

namespace RouteWatch

/-- The calls among some effects, in order. -/
def Effect.calls : List Effect → List Call
  | [] => []
  | call c :: effects => c :: calls effects
  | pause _ :: effects => calls effects

/-- The calls of a run, in order. -/
def Run.calls (run : Run σ α) : List Call := Effect.calls run.effects

namespace Run

/-- The run with another account of its result. -/
def map (f : α → β) (run : Run σ α) : Run σ β := ⟨run.source, run.effects, run.result.map f⟩

theorem map_map (f : α → β) (g : β → γ) (run : Run σ α) : (run.map f).map g = run.map (g ∘ f) := by
  obtain ⟨source, effects, result⟩ := run
  cases result <;> rfl

theorem after_after (a b : List Effect) (run : Run σ α) :
    (run.after b).after a = run.after (a ++ b) := by
  rw [after, after, after, List.append_assoc]

theorem map_after (f : α → β) (effects : List Effect) (run : Run σ α) :
    (run.map f).after effects = (run.after effects).map f := rfl

end Run

/-! ## One device -/

namespace Watch

variable {watch : Watch} {device : Text}

/-- What a run on one device does to a source of replies: it makes calls on this device, all of
them recorded, and leaves the replies of the other devices alone. -/
structure StaysOn (device : Text) (source : Replay) (run : Run Replay α) : Prop where
  calls : ∀ call ∈ run.calls, call.device = device
  executed : run.source.executed = source.executed ++ run.calls
  others : ∀ other, other ≠ device → run.source.queues other = source.queues other

/-- The runs do the same with the same result, and leave the same replies for the device. -/
structure SameOn (device : Text) (a b : Run Replay α) : Prop where
  effects : a.effects = b.effects
  result : a.result = b.result
  queues : a.source.queues device = b.source.queues device

/-- A tick behind which no other follows. -/
theorem staysOn_call (source : Replay) (result : Except CallError α) :
    StaysOn device source ⟨(Replay.execute (watch.call device) source).2,
      [.call (watch.call device)], result⟩ where
  calls := List.forall_mem_singleton.2 rfl
  executed := Replay.executed_execute _ _
  others _ h := Replay.queues_execute_other _ _ h

/-- A tick and a pause before a run. -/
theorem StaysOn.after {source : Replay} {run : Run Replay α}
    (h : StaysOn device (Replay.execute (watch.call device) source).2 run) (length : Duration) :
    StaysOn device source (run.after [.call (watch.call device), .pause length]) where
  calls := List.forall_mem_cons.2 ⟨rfl, h.calls⟩
  executed := by
    show run.source.executed = _
    rw [h.executed, Replay.executed_execute, List.append_assoc]
    rfl
  others other hother := by
    show run.source.queues other = _
    rw [h.others other hother]
    exact Replay.queues_execute_other _ _ hother

theorem staysOn_pollFrom : ∀ {left attempt : Nat} {poller : Poller} (source : Replay),
    poller.Waits attempt left →
    StaysOn device source (pollFrom Replay.execute watch device poller source)
  | 0, _, _, source, hwaits => by
    rw [pollFrom_last hwaits (.inr rfl)]
    exact staysOn_call source _
  | left + 1, _, _, source, hwaits => by
    cases h : watch.decides (Replay.execute (watch.call device) source).1 with
    | true =>
      rw [pollFrom_last hwaits (.inl h)]
      exact staysOn_call source _
    | false =>
      rw [pollFrom_succ hwaits h]
      exact (staysOn_pollFrom _ hwaits.record_false_succ).after _

/-- **A poll stays on its device.** -/
theorem staysOn_poll (watch : Watch) (device : Text) (source : Replay) :
    StaysOn device source (watch.poll Replay.execute device source) :=
  staysOn_pollFrom source (Poller.waits_start _)

theorem sameOn_pollFrom : ∀ {left attempt : Nat} {poller : Poller} {a b : Replay},
    poller.Waits attempt left → a.queues device = b.queues device →
    SameOn device (pollFrom Replay.execute watch device poller a)
      (pollFrom Replay.execute watch device poller b)
  | 0, _, _, a, b, hwaits, hab => by
    obtain ⟨hreply, hqueues⟩ := Replay.execute_congr (watch.call device) hab
    rw [pollFrom_last hwaits (.inr rfl), pollFrom_last hwaits (.inr rfl), hreply]
    exact ⟨rfl, rfl, hqueues⟩
  | left + 1, _, _, a, b, hwaits, hab => by
    obtain ⟨hreply, hqueues⟩ := Replay.execute_congr (watch.call device) hab
    cases h : watch.decides (Replay.execute (watch.call device) a).1 with
    | true =>
      rw [pollFrom_last hwaits (.inl h), pollFrom_last hwaits (.inl (hreply ▸ h)), hreply]
      exact ⟨rfl, rfl, hqueues⟩
    | false =>
      have hrest := sameOn_pollFrom hwaits.record_false_succ hqueues
      rw [pollFrom_succ hwaits h, pollFrom_succ hwaits (hreply ▸ h)]
      exact ⟨congrArg (_ ++ ·) hrest.effects, hrest.result, hrest.queues⟩

/-- **A poll depends on the replies of its own device only.** -/
theorem sameOn_poll (watch : Watch) {device : Text} {a b : Replay}
    (h : a.queues device = b.queues device) :
    SameOn device (watch.poll Replay.execute device a) (watch.poll Replay.execute device b) :=
  sameOn_pollFrom (Poller.waits_start _) h

/-! ## Many devices -/

variable {execute : Source σ}

theorem pollAll_cons_error {s : σ} {devices : List Text} {e : CallError}
    (h : (watch.poll execute device s).result = .error e) :
    watch.pollAll execute (device :: devices) s =
      ⟨(watch.poll execute device s).source, (watch.poll execute device s).effects, .error e⟩ := by
  rw [pollAll, h]

theorem pollAll_cons_ok {s : σ} {devices : List Text} {report : Report}
    (h : (watch.poll execute device s).result = .ok report) :
    watch.pollAll execute (device :: devices) s =
      ((watch.pollAll execute devices (watch.poll execute device s).source).map
        (report :: ·)).after (watch.poll execute device s).effects := by
  rw [pollAll, h]
  rfl

section

/-- The run on a device, were it the only one. -/
def alone (watch : Watch) (source : Replay) (device : Text) : Run Replay Report :=
  watch.poll Replay.execute device source

variable {source : Replay}

/-- **Devices whose runs alone do not fail are watched as if each were alone**, and those behind
them find their replies untouched. -/
theorem pollAll_append {before after : List Text} {reports : List Report}
    (hreports : List.Forall₂ (fun device report => (watch.alone source device).result = .ok report)
      before reports) (hdistinct : (before ++ after).Nodup) {s : Replay}
    (hs : ∀ device ∈ before ++ after, s.queues device = source.queues device) :
    ∃ t : Replay, (∀ device ∈ after, t.queues device = source.queues device) ∧
      t.executed = s.executed ++ before.flatMap (fun device => (watch.alone source device).calls) ∧
      watch.pollAll Replay.execute (before ++ after) s =
        ((watch.pollAll Replay.execute after t).map (reports ++ ·)).after
          (before.flatMap fun device => (watch.alone source device).effects) := by
  induction hreports generalizing s with
  | nil =>
    refine ⟨s, hs, by simp, ?_⟩
    rw [List.nil_append]
    cases watch.pollAll Replay.execute after s with
    | mk t effects result => cases result <;> rfl
  | @cons device report before reports hfirst _ ih =>
    rw [List.cons_append, List.nodup_cons] at hdistinct
    rw [List.cons_append, List.forall_mem_cons] at hs
    have hsame : SameOn device (watch.poll Replay.execute device s) (watch.alone source device) :=
      sameOn_poll watch hs.1
    have hstays := staysOn_poll watch device s
    have hrest : ∀ other ∈ before ++ after,
        (watch.poll Replay.execute device s).source.queues other = source.queues other := by
      intro other hother
      have hne : other ≠ device := fun heq => hdistinct.1 (heq ▸ hother)
      rw [hstays.others other hne, hs.2 other hother]
    obtain ⟨t, hafter, hexecuted, hrun⟩ := ih hdistinct.2 hrest
    refine ⟨t, hafter, ?_, ?_⟩
    · rw [hexecuted, hstays.executed, Run.calls, hsame.effects, List.flatMap_cons,
        List.append_assoc]
      rfl
    · rw [List.cons_append, pollAll_cons_ok (hsame.result.trans hfirst), hrun, hsame.effects,
        List.flatMap_cons, ← Run.after_after, ← Run.map_after, Run.map_map]
      rfl

/-- The run on many devices, when none of them alone fails. -/
theorem pollAll_succeeds {devices : List Text} {reports : List Report}
    (hreports : List.Forall₂ (fun device report => (watch.alone source device).result = .ok report)
      devices reports) (hdistinct : devices.Nodup) :
    (watch.pollAll Replay.execute devices source).result = .ok reports ∧
      (watch.pollAll Replay.execute devices source).effects =
        devices.flatMap (fun device => (watch.alone source device).effects) ∧
      (watch.pollAll Replay.execute devices source).source.executed =
        source.executed ++ devices.flatMap fun device => (watch.alone source device).calls := by
  rw [← List.append_nil devices] at hdistinct
  obtain ⟨t, -, hexecuted, hrun⟩ := pollAll_append hreports hdistinct fun _ _ => rfl
  rw [List.append_nil] at hrun
  rw [hrun]
  refine ⟨congrArg Except.ok (List.append_nil reports), List.append_nil _, hexecuted⟩

/-- The run on many devices, when one of them fails and none before it does. -/
theorem pollAll_fails {before later : List Text} {failing : Text} {reports : List Report}
    (hreports : List.Forall₂ (fun device report => (watch.alone source device).result = .ok report)
      before reports) (hdistinct : (before ++ failing :: later).Nodup) {e : CallError}
    (he : (watch.alone source failing).result = .error e) :
    let all := watch.pollAll Replay.execute (before ++ failing :: later) source
    all.result = .error e ∧
      all.effects = (before ++ [failing]).flatMap (fun device =>
        (watch.alone source device).effects) ∧
      all.source.executed = source.executed ++ (before ++ [failing]).flatMap fun device =>
        (watch.alone source device).calls := by
  intro all
  obtain ⟨t, ht, hexecuted, hrun⟩ := pollAll_append hreports hdistinct fun _ _ => rfl
  have hsame : SameOn failing (watch.poll Replay.execute failing t) (watch.alone source failing) :=
    sameOn_poll watch (ht failing List.mem_cons_self)
  have hstays := staysOn_poll watch failing t
  have hall : all = _ := hrun
  rw [pollAll_cons_error (hsame.result.trans he)] at hall
  rw [hall]
  refine ⟨rfl, ?_, ?_⟩
  · show _ ++ (watch.poll Replay.execute failing t).effects = _
    rw [hsame.effects, List.flatMap_append, List.flatMap_singleton]
  · show (watch.poll Replay.execute failing t).source.executed = _
    rw [hstays.executed, hexecuted, Run.calls, hsame.effects, List.flatMap_append,
      List.flatMap_singleton, List.append_assoc]
    rfl

theorem exists_reports {devices : List Text}
    (h : ∀ device ∈ devices, ∃ report, (watch.alone source device).result = .ok report) :
    ∃ reports, List.Forall₂ (fun device report => (watch.alone source device).result = .ok report)
      devices reports := by
  induction devices with
  | nil => exact ⟨[], .nil⟩
  | cons device devices ih =>
    obtain ⟨report, hreport⟩ := h device List.mem_cons_self
    obtain ⟨reports, hreports⟩ := ih fun other hother => h other (List.mem_cons_of_mem _ hother)
    exact ⟨report :: reports, .cons hreport hreports⟩

/-- The calls of runs on other devices do not count for a device. -/
theorem callsTo_eq {s : Replay} {devices : List Text}
    (h : s.executed = source.executed ++ devices.flatMap fun device =>
      (watch.alone source device).calls) {other : Text} (hother : other ∉ devices) :
    s.callsTo other = source.callsTo other := by
  have hnone : (devices.flatMap fun device => (watch.alone source device).calls).filter
      (·.device == other) = [] := by
    rw [List.filter_eq_nil_iff]
    intro call hcall
    obtain ⟨device, hdevice, hcall⟩ := List.mem_flatMap.1 hcall
    rw [(staysOn_poll watch device source).calls call hcall, beq_iff_eq]
    rintro rfl
    exact hother hdevice
  rw [Replay.callsTo, Replay.callsTo, h, List.filter_append, hnone, List.append_nil]

end

/-- **Many devices are watched in turn, each as if it were alone, up to the first that fails.**
The source is the one at the start in every run alone, and its log of calls grows by those of the
run. When no run alone fails there is one report for each device in order, that of its run alone,
and the calls are those of the runs alone one after the other; watched in another order, the same
reports come in that order. When one fails and none before it does, its error is the result, the
calls are those up to its last one, and the devices behind it are never called. -/
theorem pollAll_alone (watch : Watch) (source : Replay) (devices : List Text)
    (hdistinct : devices.Nodup) :
    let all := watch.pollAll Replay.execute devices source
    (∀ device, (watch.alone source device).source.executed =
      source.executed ++ (watch.alone source device).calls) ∧
    ((∀ device ∈ devices, ∃ report, (watch.alone source device).result = .ok report) →
      ∃ reports, all.result = .ok reports ∧
        List.Forall₂ (fun device report => (watch.alone source device).result = .ok report)
          devices reports ∧
        all.effects = devices.flatMap (fun device => (watch.alone source device).effects) ∧
        all.source.executed = source.executed ++
          devices.flatMap (fun device => (watch.alone source device).calls) ∧
        ∀ others, others.Perm devices → ∃ reports',
          (watch.pollAll Replay.execute others source).result = .ok reports' ∧
            List.Forall₂ (fun device report => (watch.alone source device).result = .ok report)
              others reports' ∧
            reports'.Perm reports) ∧
    ∀ before failing later e, devices = before ++ failing :: later →
      (∀ device ∈ before, ∃ report, (watch.alone source device).result = .ok report) →
      (watch.alone source failing).result = .error e →
      all.result = .error e ∧
        all.effects = (before ++ [failing]).flatMap (fun device =>
          (watch.alone source device).effects) ∧
        all.source.executed = source.executed ++ (before ++ [failing]).flatMap (fun device =>
          (watch.alone source device).calls) ∧
        ∀ device ∈ later, all.source.callsTo device = source.callsTo device := by
  refine ⟨fun device => (staysOn_poll watch device source).executed, fun h => ?_, ?_⟩
  · obtain ⟨reports, hreports⟩ := exists_reports h
    obtain ⟨hresult, heffects, hexecuted⟩ := pollAll_succeeds hreports hdistinct
    refine ⟨reports, hresult, hreports, heffects, hexecuted, fun others hothers => ?_⟩
    obtain ⟨reports', hreports', hperm⟩ := List.perm_comp_forall₂ hothers hreports
    exact ⟨reports', (pollAll_succeeds hreports' (hothers.nodup_iff.2 hdistinct)).1, hreports',
      hperm⟩
  · rintro before failing later e rfl hbefore he
    obtain ⟨reports, hreports⟩ := exists_reports hbefore
    obtain ⟨hresult, heffects, hexecuted⟩ := pollAll_fails hreports hdistinct he
    refine ⟨hresult, heffects, hexecuted, fun device hdevice => callsTo_eq hexecuted ?_⟩
    have hsplit : (before ++ [failing] ++ later).Nodup := by simpa using hdistinct
    exact fun hmem => (List.nodup_append.1 hsplit).2.2 device hmem device hdevice rfl

/-- Waiting for a route to go. -/
def goneWatch : Watch where
  query := { expected := Route.empty ⟨.v4 10 0 0 0, 24⟩ }
  format := .rib
  goal := .absent
  policy := ⟨Duration.ofSeconds 1, 3⟩

/-- On device `a` the route is gone, device `b` still has it and then fails, and device `d` has it
for one tick more. -/
def goneReplay : Replay :=
  ((Replay.empty.always ['a'] .managementCli []).script ['b'] .managementCli
    [.output "10.0.0.0/24, 0 unicast next-hops".toList, .failure 1 "down".toList]).switchAfter ['d']
      .managementCli 1 "10.0.0.0/24, 0 unicast next-hops".toList []

/-- What is told of a device when the route is gone at a tick. -/
def goneReport (device : Text) (attempts : Nat) : Report :=
  ⟨device, ⟨.v4 10 0 0 0, 24⟩, .absent, true, attempts, none, [.routeAbsent]⟩

/-- With nothing scripted for device `c`, the failure of `b` is the result all the same. Without `b`
there is a report for each device, in either order. -/
theorem pollAll_alone_goneReplay :
    ([['a'], ['b'], ['c']].Nodup ∧
      let all := goneWatch.pollAll Replay.execute [['a'], ['b'], ['c']] goneReplay
      all.result = .error (.failed ['b'] "show ip route".toList 1 "down".toList) ∧
        all.source.executed = [goneWatch.call ['a'], goneWatch.call ['b'], goneWatch.call ['b']] ∧
        all.source.callsTo ['c'] = 0) ∧
    [['a'], ['d']].Nodup ∧
      let both := goneWatch.pollAll Replay.execute [['a'], ['d']] goneReplay
      both.result = .ok [goneReport ['a'] 1, goneReport ['d'] 2] ∧
        both.source.executed = [goneWatch.call ['a'], goneWatch.call ['d'], goneWatch.call ['d']] ∧
        (goneWatch.pollAll Replay.execute [['d'], ['a']] goneReplay).result =
          .ok [goneReport ['d'] 2, goneReport ['a'] 1] := by
  have ha := @poll_eq _ Replay.execute goneWatch ['a'] 0 goneReplay (by decide) (by decide)
    (.inl (by decide +kernel))
  have hb := @poll_eq _ Replay.execute goneWatch ['b'] 1 goneReplay (by decide) (by decide +kernel)
    (.inl (by decide +kernel))
  have hd := @poll_eq _ Replay.execute goneWatch ['d'] 1 goneReplay (by decide) (by decide +kernel)
    (.inl (by decide +kernel))
  have hgone_a : (goneWatch.alone goneReplay ['a']).result = .ok (goneReport ['a'] 1) := by
    rw [alone, ha]
    rfl
  have hgone_d : (goneWatch.alone goneReplay ['d']).result = .ok (goneReport ['d'] 2) := by
    rw [alone, hd]
    rfl
  refine ⟨?_, ?_⟩
  · have hdistinct : [['a'], ['b'], ['c']].Nodup := by decide
    have herror : (goneWatch.alone goneReplay ['b']).result =
        .error (.failed ['b'] "show ip route".toList 1 "down".toList) := by
      rw [alone, hb]
      rfl
    obtain ⟨hresult, -, hexecuted, hlater⟩ := (pollAll_alone goneWatch goneReplay _ hdistinct).2.2
      [['a']] ['b'] [['c']] _ rfl (List.forall_mem_singleton.2 ⟨_, hgone_a⟩) herror
    refine ⟨hdistinct, hresult, ?_, hlater ['c'] List.mem_cons_self⟩
    rw [hexecuted]
    simp only [alone, List.cons_append, List.nil_append, List.flatMap_cons, List.flatMap_nil, ha,
      hb]
    rfl
  · have hdistinct : [['a'], ['d']].Nodup := by decide
    obtain ⟨reports, hresult, hreports, -, hexecuted, hothers⟩ :=
      (pollAll_alone goneWatch goneReplay _ hdistinct).2.1
        (List.forall_mem_cons.2 ⟨⟨_, hgone_a⟩, List.forall_mem_singleton.2 ⟨_, hgone_d⟩⟩)
    obtain ⟨reports', hresult', hreports', -⟩ := hothers [['d'], ['a']] (.swap _ _ _)
    -- A run alone has one result, so that no other reports stand for the devices.
    have hunique : Relator.RightUnique fun device report =>
        (goneWatch.alone goneReplay device).result = .ok report :=
      fun _ _ _ h h' => Except.ok.inj (h.symm.trans h')
    obtain rfl := hunique.forall₂ hreports (.cons hgone_a (.cons hgone_d .nil))
    obtain rfl := hunique.forall₂ hreports' (.cons hgone_d (.cons hgone_a .nil))
    refine ⟨hdistinct, hresult, ?_, hresult'⟩
    rw [hexecuted]
    simp only [alone, List.flatMap_cons, List.flatMap_nil, ha, hd]
    rfl

end Watch
end RouteWatch
