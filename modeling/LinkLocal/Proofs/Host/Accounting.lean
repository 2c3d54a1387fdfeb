import LinkLocal.Proofs.Host.Lasting
import LinkLocal.Proofs.Host.Record

/-! No event is lost, invented, doubled or put in another place. What an owner has got, with what
waits for it, is what the findings that were taken have to tell, one finding after another. A
dispatch that fails halfway has taken the findings up to its failure. A detector may count its
findings as it likes, so nothing depends on how many of them one dispatch takes. -/
namespace LinkLocal

variable {σ : Type} [Journal σ] {d : Detector σ}

/-- Whether a detector refuses a probe in an exchange. -/
def Exchange.refuses : Exchange → Bool
  | .start _ (.error _) => true
  | _ => false

/-- The findings among some exchanges. -/
def findingsIn (exchanges : List Exchange) : List Detection :=
  exchanges.filterMap Exchange.finding?

namespace Host

/-! ## Reports -/

/-- Whether an engine cannot go on after a loss: it has no probe to begin with another address, or
the detector refuses it. -/
def stranded (e : Engine) (exchanges : List Exchange) : Bool :=
  e.probe = none || exchanges.any Exchange.refuses

/-- What a finding has to tell the owner of an engine, when it goes through the policy with these
exchanges. -/
def report (e : Engine) (exchanges : List Exchange) : Detection → List Event
  | .ready => [e.address.elim .down .ready]
  | .defended claim => [.defended claim]
  | .conflict claim => .conflict claim :: if stranded e exchanges then [.down] else []
  | .used _ => if stranded e exchanges then [.down] else []
  | .down => [.down]

/-- What is asked of the detector while a finding goes through the policy. -/
def Taking.exchanges (d : Detector σ) (t : Taking σ) : List Exchange :=
  (react d.recorded t.finding t.host.recording).world.exchanges

/-- What a taking has to tell the owner. -/
def Taking.report (d : Detector σ) (t : Taking σ) : List Event :=
  Host.report t.host.engine (t.exchanges d) t.finding

/-- A host that stops after a conflict has been configured. -/
def Configured (h : Host σ) : Prop := h.engine.policy = .stop → h.engine.probe ≠ none

theorem lasting_configured (d : Detector σ) : Lasting d (Configured (σ := σ)) where
  world _ configured := configured
  idle configured := configured
  push _ configured := configured
  pop _ configured := configured
  pass _ _ _ := fun _ => nofun
  skip _ configured := configured

theorem configured_start {h : Host σ} (config : Config) (configured : Configured h) :
    Configured (h.start d config).2 := by
  have started := started d config h
  generalize h.start d config = result at started ⊢
  obtain ⟨r, h'⟩ := result
  cases started with
  | refused => exact configured
  | failed => exact configured
  | begun => exact fun _ => nofun

/-- A host that picks another candidate goes down exactly if it is stranded. -/
theorem Reselected.tells {h h' : Host (Recorded σ)} (reselected : Reselected d.recorded h h')
    (unasked : h.world.exchanges = []) : h'.engine.pending.toList = h.engine.pending.toList ++
      if stranded h.engine h'.world.exchanges then [.down] else [] := by
  cases reselected with
  | @begun c r probe begun =>
    obtain ⟨c', asked⟩ : ∃ c', r.exchanges = [.start c' (.ok ())] :=
      ⟨_, (exchanges_of_start begun).trans (unasked ▸ List.nil_append _)⟩
    have safe : stranded h.engine r.exchanges = false := by
      rw [stranded, probe, asked]
      rfl
    change h.engine.pending.toList = _ ++ if stranded h.engine r.exchanges then _ else _
    rw [safe]
    exact (List.append_nil _).symm
  | @failed c fault r probe tried =>
    obtain ⟨c', asked⟩ : ∃ c', r.exchanges = [.start c' (.error fault)] :=
      ⟨_, (exchanges_of_start tried).trans (unasked ▸ List.nil_append _)⟩
    have fails : stranded h.engine r.exchanges = true := by
      rw [stranded, probe, asked]
      rfl
    change (h.engine.pending.push .down).toList = _ ++ if stranded h.engine r.exchanges then _ else _
    rw [fails, Queue.toList_push]
    rfl
  | unconfigured none =>
    have fails : stranded h.engine h.world.exchanges = true := by
      rw [stranded, none]
      rfl
    change (h.engine.pending.push .down).toList =
      _ ++ if stranded h.engine h.world.exchanges then _ else _
    rw [fails, Queue.toList_push]
    rfl

/-- What waits after a finding has gone through the policy is what waited before, and then what the
finding has to tell. -/
theorem Reacted.tells {h h' : Host (Recorded σ)} {f : Detection}
    (reacted : Reacted d.recorded h f h') (unasked : h.world.exchanges = [])
    (configured : Configured h) : h'.engine.pending.toList =
      h.engine.pending.toList ++ report h.engine h'.world.exchanges f := by
  cases reacted with
  | ready candidate =>
    rw [report, candidate]
    exact Queue.toList_push ..
  | unconfigured none =>
    rw [report, none]
    exact Queue.toList_push ..
  | defended claim => exact Queue.toList_push ..
  | lost claim policy =>
    have tells := (reselected d.recorded (h.leave (.conflict claim) (.lost claim))).tells unasked
    rw [tells, leave, Engine.push, Queue.toList_push, List.append_assoc]
    rfl
  | yielded claim policy =>
    have probed := configured policy
    have asked : (stop d.recorded (h.leave (.conflict claim) (.lost claim))).world.exchanges =
        [.stop] := (exchanges_stop d _).trans (congrArg (· ++ [Exchange.stop]) unasked)
    have safe : stranded h.engine [.stop] = false := by
      rw [stranded, decide_eq_false probed]
      rfl
    rw [report, asked, safe, stop_eq]
    exact Queue.toList_push ..
  | used claim => exact (reselected d.recorded _).tells unasked
  | down => exact Queue.toList_push ..

theorem react_tells {h : Host σ} (configured : Configured h) (f : Detection) :
    (react d f h).engine.pending.toList =
      h.engine.pending.toList ++ Taking.report d ⟨h, f⟩ := by
  have same : (react d f h).engine = (react d.recorded f h.recording).engine :=
    congrArg Host.engine (seen_react d.recorded_shows f h.recording)
  rw [same]
  exact (reacted d.recorded f h.recording).tells rfl configured

/-! ## Accounts -/

theorem Settled.tells {n : Nat} {h h' : Host σ} {ts : List (Taking σ)} {r : Except Error Unit}
    (settled : Settled d n h ts r h') (configured : Configured h) :
    h'.engine.pending.toList = h.engine.pending.toList ++ ts.flatMap (Taking.report d) := by
  induction settled with
  | @taken _ h _ f s _ _ _ _ ih =>
    have configured' : Configured (⟨h.engine, s⟩ : Host σ) := configured
    rw [ih ((lasting_configured d).react f configured'), react_tells configured',
      List.append_assoc]
    rfl
  | _ => exact (List.append_nil _).symm

theorem dispatch_tells {h : Host σ} (configured : Configured h) :
    (h.dispatch d).2.engine.pending.toList =
      h.engine.pending.toList ++ (dispatchTakings d h).flatMap (Taking.report d) := by
  have dispatched := dispatched d h
  generalize h.dispatch d = result, dispatchTakings d h = ts at dispatched ⊢
  obtain ⟨r, h'⟩ := result
  cases dispatched with
  | failed => exact (List.append_nil _).symm
  | settled _ settled => exact settled.tells configured

/-- What an order hands out was waiting in front, and what it leaves behind the rest is what the
findings that it takes have to tell. -/
theorem order_tells {h : Host σ} (configured : Configured h) (order : Order) :
    (order.answer d h).handed ++ (order.perform d h).engine.pending.toList =
      h.engine.pending.toList ++ (order.takings d h).flatMap (Taking.report d) := by
  cases order with
  | start config =>
    have started := started d config h
    simp only [Order.perform]
    generalize h.start d config = result at started ⊢
    obtain ⟨r, h'⟩ := result
    cases started <;> exact (List.append_nil _).symm
  | stop =>
    rw [Order.perform, stop_eq]
    exact (List.append_nil _).symm
  | dispatch => exact dispatch_tells configured
  | announce =>
    rw [Order.perform, announce_engine]
    exact (List.append_nil _).symm
  | pop => exact (pop_handed h).trans (List.append_nil _).symm
  | watch => exact (List.append_nil _).symm
  | look =>
    simp only [Order.answer, Order.perform, Order.takings, look_eq, Answer.handed]
    cases attending : Order.look.attending d h with
    | none =>
      simp only [handed_ofPopped]
      exact (pop_handed h).trans (List.append_nil _).symm
    | some h' =>
      obtain ⟨rfl, _⟩ := attending_look attending
      simp only [handed_ofDispatch]
      exact dispatch_tells configured

theorem after_tells {h : Host σ} (configured : Configured h) (orders : List Order) :
    handedOut d orders h ++ (after d orders h).engine.pending.toList =
      h.engine.pending.toList ++ (takings d orders h).flatMap (Taking.report d) := by
  induction orders generalizing h with
  | nil => exact (List.append_nil _).symm
  | cons order orders ih =>
    have configured' : Configured (order.perform d h) :=
      (lasting_configured d).perform configured fun config _ => configured_start config configured
    calc handedOut d (order :: orders) h ++ (after d (order :: orders) h).engine.pending.toList
      _ = (order.answer d h).handed ++ (handedOut d orders (order.perform d h) ++
          (after d orders (order.perform d h)).engine.pending.toList) := List.append_assoc ..
      _ = ((order.answer d h).handed ++ (order.perform d h).engine.pending.toList) ++
          (takings d orders (order.perform d h)).flatMap (Taking.report d) := by
        rw [ih configured', List.append_assoc]
      _ = _ := by
        rw [order_tells configured, List.append_assoc, takings, List.flatMap_append]

/-! ## Findings -/

theorem findingsIn_concat (exchanges : List Exchange) (x : Exchange) :
    findingsIn (exchanges ++ [x]) = findingsIn exchanges ++ x.finding?.toList := by
  cases found : x.finding? <;> simp [findingsIn, found]

omit [Journal σ] in
theorem started_findings {c : Probe} {answer : Except DetectorFault Unit} {r r' : Recorded σ}
    (tried : d.recorded.start c r = (answer, r')) :
    findingsIn r'.exchanges = findingsIn r.exchanges := by
  rw [exchanges_of_start tried, findingsIn_concat]
  exact List.append_nil _

theorem reselect_findings (d : Detector σ) (h : Host (Recorded σ)) :
    findingsIn (h.reselect d.recorded).world.exchanges = findingsIn h.world.exchanges := by
  have reselected := reselected d.recorded h
  generalize h.reselect d.recorded = h' at reselected ⊢
  cases reselected with
  | begun _ begun => exact (started_findings begun :)
  | failed _ tried => exact (started_findings tried :)
  | unconfigured => rfl

/-- No finding is taken while another one goes through the policy. -/
theorem react_findings (d : Detector σ) (f : Detection) (h : Host (Recorded σ)) :
    findingsIn (react d.recorded f h).world.exchanges = findingsIn h.world.exchanges := by
  have reacted := reacted d.recorded f h
  generalize react d.recorded f h = h' at reacted ⊢
  cases reacted with
  | lost | used => exact reselect_findings d _
  | yielded =>
    rw [exchanges_stop, findingsIn_concat]
    exact List.append_nil _
  | _ => rfl

theorem Settled.findings {n : Nat} {h h' : Host (Recorded σ)} {ts : List (Taking (Recorded σ))}
    {r : Except Error Unit} (settled : Settled d.recorded n h ts r h') :
    findingsIn h'.world.exchanges = findingsIn h.world.exchanges ++ ts.map Taking.finding := by
  have polled' {h : Host (Recorded σ)} {answer : Except DetectorFault Poll} {r : Recorded σ}
      (polled : d.recorded.poll h.world = (answer, r)) : findingsIn r.exchanges =
        findingsIn h.world.exchanges ++ (Exchange.poll answer).finding?.toList := by
    rw [exchanges_of_poll polled, findingsIn_concat]
  induction settled with
  | enough => exact (List.append_nil _).symm
  | taken polled _ ih =>
    rw [ih, react_findings, polled' polled, List.append_assoc]
    rfl
  | done polled => exact polled' polled
  | stopped polled => rw [exchanges_rest]; exact polled' polled
  | failed polled => exact polled' polled

theorem dispatch_findings (d : Detector σ) (h : Host (Recorded σ)) :
    findingsIn (h.dispatch d.recorded).2.world.exchanges =
      findingsIn h.world.exchanges ++ (dispatchTakings d.recorded h).map Taking.finding := by
  have attended' {answer : Except DetectorFault Unit} {r : Recorded σ}
      (attended : d.recorded.dispatch h.world = (answer, r)) :
      findingsIn r.exchanges = findingsIn h.world.exchanges := by
    rw [exchanges_of_dispatch attended, findingsIn_concat]
    exact List.append_nil _
  have dispatched := dispatched d.recorded h
  generalize h.dispatch d.recorded = result, dispatchTakings d.recorded h = ts at dispatched ⊢
  obtain ⟨r, h'⟩ := result
  cases dispatched with
  | failed attended => exact (attended' attended).trans (List.append_nil _).symm
  | settled attended settled => rw [settled.findings, attended' attended]

/-- The findings that the detector hands out while an order is carried out are those that the order
takes. -/
theorem order_findings (d : Detector σ) (h : Host (Recorded σ)) (order : Order) :
    findingsIn (order.perform d.recorded h).world.exchanges =
      findingsIn h.world.exchanges ++ (order.takings d.recorded h).map Taking.finding := by
  cases order with
  | start config =>
    have started := started d.recorded config h
    simp only [Order.perform]
    generalize h.start d.recorded config = result at started ⊢
    obtain ⟨r, h'⟩ := result
    cases started with
    | refused => exact (List.append_nil _).symm
    | failed _ _ _ tried => exact (started_findings tried).trans (List.append_nil _).symm
    | begun _ _ _ begun => exact (started_findings begun :).trans (List.append_nil _).symm
  | stop =>
    rw [Order.perform, exchanges_stop, findingsIn_concat]
    rfl
  | dispatch => exact dispatch_findings d h
  | announce =>
    have announced : findingsIn (d.recorded.announce .once h.world).2.exchanges =
        findingsIn h.world.exchanges := (findingsIn_concat ..).trans (List.append_nil _)
    rw [show Order.announce.takings d.recorded h = [] from rfl, List.map_nil, List.append_nil]
    simp only [Order.perform]
    rcases announce_world d.recorded h with same | same | ⟨x, same⟩ <;> rw [same]
    · exact announced
    · exact announced
  | pop | watch => exact (List.append_nil _).symm
  | look =>
    simp only [Order.perform, Order.takings, look_eq]
    cases attending : Order.look.attending d.recorded h with
    | none => exact (List.append_nil _).symm
    | some h' =>
      obtain ⟨rfl, _⟩ := attending_look attending
      exact dispatch_findings d _

theorem after_findings (d : Detector σ) (orders : List Order) (h : Host (Recorded σ)) :
    findingsIn (after d.recorded orders h).world.exchanges =
      findingsIn h.world.exchanges ++ (takings d.recorded orders h).map Taking.finding := by
  induction orders generalizing h with
  | nil => exact (List.append_nil _).symm
  | cons order orders ih =>
    rw [takings, List.map_append, ← List.append_assoc, ← order_findings]
    exact ih (order.perform d.recorded h)

/-- For any detector, and whatever is ordered in a row: the events that the owner has got, and those
that wait for it, are what the findings that were taken have to tell, in their order; and the
findings that were taken are those that the detector has handed out. -/
theorem told_eq_reports (d : Detector σ) (s : σ) (orders : List Order) :
    handedOut d orders (create s) ++ (after d orders (create s)).engine.pending.toList =
        (takings d orders (create s)).flatMap (Taking.report d) ∧
      (takings d orders (create s)).map Taking.finding =
        findingsIn (exchanges d orders (create s)) := by
  constructor
  · have configured : Configured (create s) := (nofun : ConflictPolicy.reselect = .stop → _)
    exact after_tells configured orders
  · rw [← (recorded_after d orders (create s)).2.1, List.map_map]
    exact (after_findings d orders (create s).recording).symm

end Host
end LinkLocal
