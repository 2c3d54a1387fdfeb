import LinkLocal.Proofs.Text.ByteOrder
import LinkLocal.Registry

/-!
A registry is a map in which the last registration wins. A history of a registry is a list of
deeds: backends are registered, the registry is asked in any of its ways, and the world changes
besides. Of these only a registration changes what the registry holds (`get?_perform`), so that
after a history the factory under a name is the one of its latest registration (`get?_after`). From
this follows what every call answers: it refuses a name that was never registered, and for any
other name it runs the latest factory. A fault of that factory is never taken for an unknown name,
because it is passed on as a fatal error.
-/
namespace LinkLocal.Registry

/-! ## Histories -/

/-- What happens to a registry and its world. -/
inductive Deed (σ δ : Type) where
  | register (name : String) (f : Factory σ δ)
  | has (name : String)
  | names
  | createDetector (name : String)
  | createEngine (name : String)
  /-- The world changes without the registry. -/
  | meanwhile (change : σ → σ)

variable {σ δ : Type} {deeds : List (Deed σ δ)} {d : Deed σ δ} {name : String} {f : Factory σ δ}

/-- A name is registered somewhere in a history. -/
def Registered (deeds : List (Deed σ δ)) (name : String) : Prop := ∃ f, .register name f ∈ deeds

/-- The last registration of a name in a history is one of this factory. -/
def Latest (deeds : List (Deed σ δ)) (name : String) (f : Factory σ δ) : Prop :=
  ∃ before behind, deeds = before ++ .register name f :: behind ∧ ¬ Registered behind name

theorem not_registered_nil : ¬ Registered ([] : List (Deed σ δ)) name := by
  rintro ⟨f, member⟩
  exact List.not_mem_nil member

theorem registered_cons :
    Registered (d :: deeds) name ↔ (∃ f, d = .register name f) ∨ Registered deeds name := by
  simp only [Registered, List.mem_cons, exists_or, eq_comm]

/-- The first deed of a history is the latest registration only of a name without another one. -/
theorem latest_cons :
    Latest (d :: deeds) name f ↔
      Latest deeds name f ∨ d = .register name f ∧ ¬ Registered deeds name := by
  constructor
  · rintro ⟨before, behind, split, last⟩
    cases before with
    | nil =>
      obtain ⟨rfl, rfl⟩ := List.cons.inj split
      exact .inr ⟨rfl, last⟩
    | cons b before =>
      obtain ⟨-, split⟩ := List.cons.inj split
      exact .inl ⟨before, behind, split, last⟩
  · rintro (⟨before, behind, rfl, last⟩ | ⟨rfl, last⟩)
    · exact ⟨d :: before, behind, rfl, last⟩
    · exact ⟨[], deeds, rfl, last⟩

theorem Latest.registered (latest : Latest deeds name f) : Registered deeds name := by
  obtain ⟨before, behind, rfl, -⟩ := latest
  exact ⟨f, List.mem_append_right before List.mem_cons_self⟩

/-- A name that was registered has a latest registration. -/
theorem exists_latest (known : Registered deeds name) : ∃ f, Latest deeds name f := by
  induction deeds with
  | nil => exact absurd known not_registered_nil
  | cons d deeds ih =>
    by_cases later : Registered deeds name
    · obtain ⟨f, latest⟩ := ih later
      exact ⟨f, latest_cons.mpr (.inl latest)⟩
    · obtain ⟨f, here⟩ := (registered_cons.mp known).resolve_right later
      exact ⟨f, latest_cons.mpr (.inr ⟨here, later⟩)⟩

/-! ## What a registry holds -/

theorem mem_names_iff (r : Registry σ δ) (name : String) : name ∈ r.names ↔ r.has name = true := by
  rw [names, (List.mergeSort_perm _ _).mem_iff, Table.mem_keys_iff]
  rfl

/-- The names stand in the strict order of their bytes, so that none stands twice. -/
theorem names_pairwise_lt (r : Registry σ δ) :
    r.names.Pairwise fun a b => Text.bytes a < Text.bytes b := by
  have ordered : r.names.Pairwise fun a b => decide (a ≤ b) = true := by
    apply List.pairwise_mergeSort
    · intro a b c le le'
      exact decide_eq_true (le_trans (of_decide_eq_true le) (of_decide_eq_true le'))
    · intro a b
      simpa using le_total a b
  have once : r.names.Nodup := (List.mergeSort_perm _ _).nodup_iff.mpr r.backends.nodup_keys
  refine (ordered.and once).imp fun ⟨le, ne⟩ => ?_
  exact Text.bytes_lt_bytes_iff.mpr (lt_of_le_of_ne (of_decide_eq_true le) ne)

variable [Journal σ]

/-- Does one deed. What a query answers is dropped; what it does to the world is kept. -/
def perform (place : Registry σ δ × σ) : Deed σ δ → Registry σ δ × σ
  | .register name f => place.1.register name f place.2
  | .has _ | .names => place
  | .createDetector name => (place.1, (place.1.createDetector name place.2).2)
  | .createEngine name => (place.1, (place.1.createEngine name place.2).2)
  | .meanwhile change => (place.1, change place.2)

/-- A deed replaces the factory under the name that it registers, and no other one. -/
theorem get?_perform (place : Registry σ δ × σ) (d : Deed σ δ) (name : String) (f : Factory σ δ) :
    (perform place d).1.backends.get? name = some f ↔
      d = .register name f ∨
        (∀ g, d ≠ .register name g) ∧ place.1.backends.get? name = some f := by
  cases d with
  | register name' g =>
    by_cases same : name' = name <;> simp [perform, register, same, Table.get?_insert]
  | has | names | createDetector | createEngine | meanwhile => simp [perform]

/-- Under a name stands what its latest registration put there, or else what stood there before. -/
theorem get?_foldl_perform (deeds : List (Deed σ δ)) (place : Registry σ δ × σ) (name : String)
    (f : Factory σ δ) :
    (deeds.foldl perform place).1.backends.get? name = some f ↔
      Latest deeds name f ∨ ¬ Registered deeds name ∧ place.1.backends.get? name = some f := by
  induction deeds generalizing place with
  | nil =>
    have none : ¬ Latest ([] : List (Deed σ δ)) name f :=
      fun latest => not_registered_nil latest.registered
    simp [none, not_registered_nil]
  | cons d deeds ih =>
    rw [List.foldl_cons, ih, get?_perform, latest_cons, registered_cons, not_or, not_exists]
    tauto

/-- The registry and its world after a history that began with an empty registry. -/
def after (deeds : List (Deed σ δ)) (s : σ) : Registry σ δ × σ := deeds.foldl perform ({}, s)

theorem get?_after (deeds : List (Deed σ δ)) (s : σ) (name : String) (f : Factory σ δ) :
    (after deeds s).1.backends.get? name = some f ↔ Latest deeds name f := by
  rw [after, get?_foldl_perform]
  apply or_iff_left
  rintro ⟨-, held⟩
  exact absurd held (Option.some_ne_none f).symm

/-! ## What a registry answers -/

omit [Journal σ] in
/-- What a call answers that runs a factory: what was made is passed on, wrapped up, and a fault is
passed on as a fatal error. -/
inductive Runs {α : Type} (f : Factory σ δ) (s : σ) (wrap : δ → σ → α × σ) :
    Except Error α × σ → Prop where
  | made {handle : δ} {s' : σ} (made : f.create s = (.ok handle, s')) :
      Runs f s wrap (.ok (wrap handle s').1, (wrap handle s').2)
  | failed {fault : DetectorFault} {s' : σ} (failed : f.create s = (.error fault, s'))
      (fatal : (Error.ofDetector fault).isFatal = true) :
      Runs f s wrap (.error (.ofDetector fault), s')

/-- An answer is a complaint about an argument. -/
def ComplainsOfArgument {α : Type} (answer : Except Error α × σ) : Prop :=
  ∃ cause, answer.1 = .error (.invalidArgument cause)

omit [Journal σ] in
/-- A factory that itself complains about an argument is not taken for a missing one. -/
theorem Runs.not_complainsOfArgument {α : Type} {s : σ} {wrap : δ → σ → α × σ}
    {answer : Except Error α × σ} (runs : Runs f s wrap answer) :
    ¬ ComplainsOfArgument answer := by
  rintro ⟨cause, complaint⟩
  cases runs with
  | made => exact nomatch complaint
  | failed _ fatal =>
    rw [Except.error.inj complaint] at fatal
    exact absurd fatal Bool.false_ne_true

/-- A fresh engine for a detector that was just made. -/
def commission (handle : δ) (s : σ) : (δ × Engine) × σ := ((handle, {}), Journal.note .created s)

variable {r : Registry σ δ}

omit [Journal σ] in
theorem createDetector_of_get?_eq_none (none : r.backends.get? name = none) (s : σ) :
    r.createDetector name s = (.error (.invalidArgument (.unregistered name)), s) := by
  rw [createDetector, none]

theorem createEngine_of_get?_eq_none (none : r.backends.get? name = none) (s : σ) :
    r.createEngine name s = (.error (.invalidArgument (.unregistered name)), s) := by
  rw [createEngine, createDetector_of_get?_eq_none none]

omit [Journal σ] in
theorem createDetector_runs (held : r.backends.get? name = some f) (s : σ) :
    Runs f s Prod.mk (r.createDetector name s) := by
  simp only [createDetector, held]
  split
  · next made => exact .made made
  · next failed => exact .failed failed (Error.isFatal_ofDetector _)

theorem createEngine_runs (held : r.backends.get? name = some f) (s : σ) :
    Runs f s commission (r.createEngine name s) := by
  have detector := createDetector_runs held s
  rw [createEngine]
  generalize r.createDetector name s = answer at detector
  cases detector with
  | made made => exact .made made
  | failed failed fatal => exact .failed failed fatal

/-- What a registry does for a name after a history. -/
structure Serves (deeds : List (Deed σ δ)) (r : Registry σ δ) (name : String) : Prop where
  has_iff : r.has name = true ↔ Registered deeds name
  /-- Only a name that was never registered is refused as an argument. -/
  detector_refused_iff (s : σ) :
    ComplainsOfArgument (r.createDetector name s) ↔ ¬ Registered deeds name
  engine_refused_iff (s : σ) :
    ComplainsOfArgument (r.createEngine name s) ↔ ¬ Registered deeds name
  /-- The refusal tells the name, and nothing is run. -/
  unknown : ¬ Registered deeds name → ∀ s,
    r.createDetector name s = (.error (.invalidArgument (.unregistered name)), s) ∧
      r.createEngine name s = (.error (.invalidArgument (.unregistered name)), s)
  /-- For any other name there is a latest factory, and that one is run. -/
  known : Registered deeds name → ∃ f, Latest deeds name f
  runs : ∀ f, Latest deeds name f → ∀ s,
    Runs f s Prod.mk (r.createDetector name s) ∧ Runs f s commission (r.createEngine name s)

theorem after_serves (deeds : List (Deed σ δ)) (s : σ) (name : String) :
    Serves deeds (after deeds s).1 name := by
  generalize same : (after deeds s).1 = r
  have held_iff (f : Factory σ δ) : r.backends.get? name = some f ↔ Latest deeds name f :=
    same ▸ get?_after deeds s name f
  have runs (f : Factory σ δ) (latest : Latest deeds name f) (s : σ) :
      Runs f s Prod.mk (r.createDetector name s) ∧ Runs f s commission (r.createEngine name s) :=
    have held := (held_iff f).mpr latest
    ⟨createDetector_runs held s, createEngine_runs held s⟩
  by_cases known : Registered deeds name
  · obtain ⟨f, latest⟩ := exists_latest known
    exact {
      has_iff := iff_of_true (by rw [has, Table.contains, (held_iff f).mpr latest]; rfl) known
      detector_refused_iff := fun s =>
        iff_of_false (runs f latest s).1.not_complainsOfArgument (not_not_intro known)
      engine_refused_iff := fun s =>
        iff_of_false (runs f latest s).2.not_complainsOfArgument (not_not_intro known)
      unknown := fun missing => absurd known missing
      known := exists_latest
      runs }
  · have none : r.backends.get? name = none := by
      apply Option.eq_none_iff_forall_ne_some.mpr
      intro f held
      exact known ((held_iff f).mp held).registered
    have detector := createDetector_of_get?_eq_none none
    have engine := createEngine_of_get?_eq_none none
    exact {
      has_iff := iff_of_false (by rw [has, Table.contains, none]; exact Bool.false_ne_true) known
      detector_refused_iff := fun s => iff_of_true ⟨_, congrArg Prod.fst (detector s)⟩ known
      engine_refused_iff := fun s => iff_of_true ⟨_, congrArg Prod.fst (engine s)⟩ known
      unknown := fun _ s => ⟨detector s, engine s⟩
      known := exists_latest
      runs }

/-- The last registration wins. After any history a registry refuses exactly the names that were
never registered, and runs the latest factory of every other name, whatever that factory answers;
and it lists exactly the names that it has, each once and in the order of their bytes. -/
theorem last_registration_wins (deeds : List (Deed σ δ)) (s : σ) :
    (∀ name, Serves deeds (after deeds s).1 name) ∧
    (after deeds s).1.names.Pairwise (fun a b => Text.bytes a < Text.bytes b) ∧
    ∀ name, name ∈ (after deeds s).1.names ↔ (after deeds s).1.has name = true := by
  refine ⟨?_, ?_, ?_⟩
  · intro name
    exact after_serves deeds s name
  · exact names_pairwise_lt _
  · intro name
    exact mem_names_iff _ name

/-- A factory that replaced a sound one rejects its arguments, and the error is fatal. -/
example (sound : Factory σ δ) (s : σ) :
    let broken : Factory σ δ := ⟨fun s => (.error (.invalidArgument .emptyAddress), s)⟩
    let r := (after [.register "sim" sound, .register "sim" broken] s).1
    r.createDetector "sim" s = (.error (.notRecoverable (.rejected .emptyAddress)), s) := rfl

end LinkLocal.Registry
