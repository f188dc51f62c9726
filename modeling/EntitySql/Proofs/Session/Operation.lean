import EntitySql.Proofs.Outcome
import EntitySql.Session

/-!
# The course of an operation

The operations of a session as data, each with its arguments. They differ in what makes them idle,
in the request they build and in what they make of its answer. All else they share: an operation
that is not idle resolves the metadata, builds its request, has it answered, and finishes.
-/

namespace EntitySql

/-! ## Requests -/

inductive Channel
  | execute
  | query
  | insert
  deriving DecidableEq

namespace Channel

abbrev Request : Channel → Type
  | .execute => Statement
  | .query => Statement
  | .insert => InsertPlan

abbrev Answer : Channel → Type
  | .execute => Nat
  | .query => List Row
  | .insert => Option Row

end Channel

/-- A call of an executor, and its failure if it failed. -/
structure Exchange where
  channel : Channel
  request : channel.Request
  options : CommandOptions
  failure : Option Error

variable {σ : Type}

def Executor.answer (ex : Executor σ) :
    (c : Channel) → c.Request → CommandOptions → σ → Except Error c.Answer × σ
  | .execute => ex.execute
  | .query => ex.query
  | .insert => ex.insert

/-- A request built from the metadata of an entity type, or why there is none. -/
def Registry.prepare (r : Registry) (t : EntityType) (dialect : Dialect) {α : Type}
    (build : StatementBuilder → Except Error α) : Except Error (EntityMeta × α) := do
  let m ← (r.resolve t.descriptor).1
  let request ← build ⟨m, dialect⟩
  return (m, request)

/-- A request built from the metadata and answered, with that metadata. -/
def Session.ask (ex : Executor σ) (t : EntityType) (c : Channel)
    (build : StatementBuilder → Except Error c.Request) : Action σ (EntityMeta × c.Answer) :=
  (builder ex t).bind fun b ↦ (Action.ofExcept (build b)).bind fun request ↦
    (perform (ex.answer c request)).bind fun answer ↦ .pure (b.entity, answer)

/-! ## Operations -/

inductive Operation (t : EntityType)
  | get (key : KeyValues)
  | getTracked (key : KeyValues)
  | getAll (query : Query)
  | count (filter : Option Expr)
  | insert (e : t.Entity)
  | insertMany (entities : List t.Entity)
  | update (e : t.Entity)
  | updateMany (entities : List t.Entity)
  | updateTracked (e : Tracked t.Entity)
  | delete (e : t.Entity)
  | deleteMany (entities : List t.Entity)
  | deleteAll

inductive Reply (t : EntityType)
  | found (e : Option t.Entity)
  | tracked (e : Option (Tracked t.Entity))
  | entities (es : List t.Entity)
  | counted (n : Int64)
  | generated (key : Option Value)
  | affected (n : Nat)
  | changed (b : Bool)

/-- What an operation comes to: its reply, the operation with its arguments as they are then, and
the session as it is then. -/
structure Outcome (t : EntityType) (σ : Type) where
  reply : Except Error (Reply t)
  after : Operation t
  session : Session σ

namespace Operation

variable {t : EntityType} (ex : Executor σ)

def plain {α : Type} (op : Operation t) (reply : α → Reply t) (action : Session.Action σ α)
    (s : Session σ) : Outcome t σ :=
  let (result, s) := action s
  ⟨result.map reply, op, s⟩

def run : Operation t → Session σ → Outcome t σ
  | .get key => plain (.get key) .found (Session.get ex t key)
  | .getTracked key => plain (.getTracked key) .tracked (Session.getTracked ex t key)
  | .getAll query => plain (.getAll query) .entities (Session.getAll ex t query)
  | .count filter => plain (.count filter) .counted (Session.count ex t filter)
  | .insert e => fun s ↦
    let ((result, e), s) := Session.insert ex t e s
    ⟨result.map .generated, .insert e, s⟩
  | .insertMany es => plain (.insertMany es) .affected (Session.insertMany ex t es)
  | .update e => plain (.update e) .changed (Session.update ex t e)
  | .updateMany es => plain (.updateMany es) .affected (Session.updateMany ex t es)
  | .updateTracked e => fun s ↦
    let ((result, e), s) := Session.updateTracked ex t e s
    ⟨result.map .changed, .updateTracked e, s⟩
  | .delete e => plain (.delete e) .changed (Session.delete ex t e)
  | .deleteMany es => plain (.deleteMany es) .affected (Session.deleteMany ex t es)
  | .deleteAll => plain .deleteAll .affected (Session.deleteAll ex t)

/-- The reply of an operation that has nothing to do: an empty batch, or a tracked entity that was
not modified. -/
def idle? : Operation t → Option (Reply t)
  | .insertMany [] | .updateMany [] | .deleteMany [] => some (.affected 0)
  | .updateTracked ⟨_, false⟩ => some (.changed false)
  | _ => none

def channel : Operation t → Channel
  | .get _ | .getTracked _ | .getAll _ | .count _ => .query
  | .insert _ => .insert
  | _ => .execute

def request : (op : Operation t) → StatementBuilder → Except Error op.channel.Request
  | .get key, b => b.selectById key
  | .getTracked key, b => b.selectById key
  | .getAll query, b => b.select query
  | .count filter, b => b.count filter
  | .insert e, b => .ok (b.dialect.insertPlan (b.insert (t.toRecord e)))
  | .insertMany es, b => .ok (b.insertBatch (es.map t.toRecord)).statement
  | .update e, b => b.update (t.toRecord e)
  | .updateMany es, b => b.updateBatch (es.map t.toRecord)
  | .updateTracked e, b => b.update (t.toRecord e.entity)
  | .delete e, b => b.delete (t.toRecord e)
  | .deleteMany es, b => b.deleteBatch (es.map t.toRecord)
  | .deleteAll, b => .ok ⟨b.deleteAll, .single .empty⟩

/-- The number in the first column of the first row; no row counts nothing. -/
def firstNumber (rows : List Row) : Except Error Int64 :=
  match rows.head?.bind Row.first? with
  | some v => v.readInt64
  | none => .ok 0

def finish : (op : Operation t) → EntityMeta → op.channel.Answer →
    Except Error (Reply t) × Operation t
  | .get key, m, rows => (((Session.materialize t m rows).map List.head?).map .found, .get key)
  | .getTracked key, m, rows =>
    ((((Session.materialize t m rows).map List.head?).map (Option.map Tracked.new)).map .tracked,
      .getTracked key)
  | .getAll query, m, rows => ((Session.materialize t m rows).map .entities, .getAll query)
  | .count filter, _, rows => ((firstNumber rows).map .counted, .count filter)
  | .insert e, _, none => (.ok (.generated none), .insert e)
  | .insert e, m, some row =>
    let (result, e) := Session.writeBack t row true m.generatedKeys none e
    (result.map .generated, .insert e)
  | .insertMany es, _, n => (.ok (.affected n), .insertMany es)
  | .update e, _, (n : Nat) => (.ok (.changed (0 < n)), .update e)
  | .updateMany es, _, n => (.ok (.affected n), .updateMany es)
  | .updateTracked e, _, (n : Nat) => (.ok (.changed (0 < n)), .updateTracked e.markClean)
  | .delete e, _, (n : Nat) => (.ok (.changed (0 < n)), .delete e)
  | .deleteMany es, _, n => (.ok (.affected n), .deleteMany es)
  | .deleteAll, _, n => (.ok (.affected n), .deleteAll)

def prepare (op : Operation t) (r : Registry) (dialect : Dialect) :
    Except Error (EntityMeta × op.channel.Request) :=
  r.prepare t dialect op.request

end Operation

/-! ## Asking -/

namespace Session

namespace Action

variable {α β γ : Type}

theorem pure_bind (a : α) (next : α → Action σ β) : (pure a).bind next = next a := rfl

theorem bind_pure (action : Action σ α) : (action.bind fun a ↦ pure a) = action := by
  funext s
  unfold bind
  cases action s with
  | mk result s' =>
    cases result with
    | ok a => rfl
    | error e => rfl

theorem ofExcept_bind_pure (result : Except Error α) (f : α → β) :
    ((ofExcept result : Action σ α).bind fun a ↦ pure (f a)) = ofExcept (result.map f) := by
  cases result with
  | ok a => rfl
  | error e => rfl

/-- Actions in a row may be grouped either way. -/
theorem bind_assoc (action : Action σ α) (next : α → Action σ β) (last : β → Action σ γ) :
    (action.bind next).bind last = action.bind fun a ↦ (next a).bind last := by
  funext s
  unfold bind
  cases action s with
  | mk result s' =>
    cases result with
    | ok a => rfl
    | error e => rfl

end Action

variable (ex : Executor σ) (t : EntityType)

/-- To execute a statement is to ask for it and to keep only the count. -/
theorem execute_eq_ask (build : StatementBuilder → Except Error Statement) :
    execute ex t build = (ask ex t .execute build).bind fun answered ↦ .pure answered.2 := by
  simp only [execute, ask, Action.bind_assoc, Action.pure_bind, Action.bind_pure]
  rfl

/-- An insert asks its plan, and then writes what the database generated back into the entity. -/
theorem insert_eq_ask (e : t.Entity) (s : Session σ) :
    insert ex t e s =
      match ask ex t .insert (fun b ↦ .ok (b.dialect.insertPlan (b.insert (t.toRecord e)))) s with
      | (.error error, s) => ((.error error, e), s)
      | (.ok (_, none), s) => ((.ok none, e), s)
      | (.ok (m, some row), s) => (writeBack t row true m.generatedKeys none e, s) := by
  simp only [Session.insert, ask, builder, metadata, Action.bind]
  cases s.registry.resolve t.descriptor with
  | mk result registry =>
    cases result with
    | error error => rfl
    | ok m =>
      simp only [Action.pure, Action.ofExcept, Executor.answer]
      cases perform (ex.insert (ex.dialect.insertPlan
        (StatementBuilder.insert ⟨m, ex.dialect⟩ (t.toRecord e))))
        { s with registry := registry } with
      | mk answer s' =>
        cases answer with
        | error error => rfl
        | ok row =>
          cases row with
          | none => rfl
          | some row => rfl

/-- The session once the metadata of an entity type is resolved, if it can be. -/
def withMetadata (t : EntityType) (s : Session σ) : Session σ :=
  { s with registry := (s.registry.resolve t.descriptor).2 }

section Asking

variable {ex t} {c : Channel} {build : StatementBuilder → Except Error c.Request} {s : Session σ}
  {m : EntityMeta} {request : c.Request} {answer : c.Answer} {state : σ} {e : Error}

theorem builder_of_error (h : (s.registry.resolve t.descriptor).1 = .error e) :
    builder ex t s = (.error e, s.withMetadata t) := by
  simp only [builder, metadata, Action.bind, h]
  rfl

theorem builder_of_ok (h : (s.registry.resolve t.descriptor).1 = .ok m) :
    builder ex t s = (.ok ⟨m, ex.dialect⟩, s.withMetadata t) := by
  simp only [builder, metadata, Action.bind, h]
  rfl

/-- A request that cannot be prepared reaches no executor. -/
theorem ask_of_refused (h : s.registry.prepare t ex.dialect build = .error e) :
    ask ex t c build s = (.error e, s.withMetadata t) := by
  rcases bind_eq_error.1 h with hm | ⟨m, hm, h⟩
  · simp only [ask, Action.bind, builder_of_error hm]
  · rcases bind_eq_error.1 h with hbuild | ⟨request, -, h⟩
    · simp only [ask, Action.bind, builder_of_ok hm, hbuild, Action.ofExcept]
    · cases h

/-- A request that is prepared is put to the executor with the options of the session. -/
theorem ask_of_prepared (h : s.registry.prepare t ex.dialect build = .ok (m, request)) :
    ask ex t c build s =
      ((perform (ex.answer c request)).bind fun answer ↦ .pure (m, answer)) (s.withMetadata t) := by
  obtain ⟨m', hm, h⟩ := bind_eq_ok.1 h
  obtain ⟨request', hrequest, h⟩ := bind_eq_ok.1 h
  cases h
  unfold ask
  simp only [Action.bind, builder_of_ok hm, hrequest, Action.ofExcept]

/-- A failure of the executor is given back, with the state the executor left. -/
theorem ask_of_failed (h : s.registry.prepare t ex.dialect build = .ok (m, request))
    (hanswer : ex.answer c request s.options s.state = (.error e, state)) :
    ask ex t c build s = (.error e, { s.withMetadata t with state := state }) := by
  rw [ask_of_prepared h]
  simp only [Action.bind, perform, withMetadata, hanswer]

theorem ask_of_answered (h : s.registry.prepare t ex.dialect build = .ok (m, request))
    (hanswer : ex.answer c request s.options s.state = (.ok answer, state)) :
    ask ex t c build s = (.ok (m, answer), { s.withMetadata t with state := state }) := by
  rw [ask_of_prepared h]
  simp only [Action.bind, Action.pure, perform, withMetadata, hanswer]

end Asking

end Session

/-! ## One course for all -/

namespace Operation

variable {t : EntityType} (ex : Executor σ)

/-- An operation with nothing to do touches neither session nor executor. -/
theorem run_of_idle {op : Operation t} {reply : Reply t} (h : op.idle? = some reply)
    (s : Session σ) : op.run ex s = ⟨.ok reply, op, s⟩ := by
  unfold idle? at h
  split at h
  · cases h
    rfl
  · cases h
    rfl
  · cases h
    rfl
  · cases h
    rfl
  · cases h

/-- An operation that asks once, fails where that fails, and else finishes with the answer. -/
structure Asks (op : Operation t) (c : Channel)
    (build : StatementBuilder → Except Error c.Request)
    (finish : EntityMeta → c.Answer → Except Error (Reply t) × Operation t) : Prop where
  failed {s s' : Session σ} {e : Error} (h : Session.ask ex t c build s = (.error e, s')) :
    op.run ex s = ⟨.error e, op, s'⟩
  answered {s s' : Session σ} {m : EntityMeta} {answer : c.Answer}
    (h : Session.ask ex t c build s = (.ok (m, answer), s')) :
    op.run ex s = ⟨(finish m answer).1, (finish m answer).2, s'⟩

theorem asks_of_plain {α : Type} {op : Operation t} {reply : α → Reply t}
    {action : Session.Action σ α} (c : Channel)
    {build : StatementBuilder → Except Error c.Request}
    (next : EntityMeta → c.Answer → Except Error α) (hrun : op.run ex = plain op reply action)
    (haction : action = (Session.ask ex t c build).bind fun x ↦ .ofExcept (next x.1 x.2)) :
    op.Asks ex c build fun m answer ↦ ((next m answer).map reply, op) where
  failed h := by
    rw [hrun, haction]
    simp only [plain, Session.Action.bind, h, Except.map]
  answered h := by
    rw [hrun, haction]
    simp only [plain, Session.Action.bind, Session.Action.ofExcept, h]

theorem asks_of_execute {α : Type} {op : Operation t} {reply : α → Reply t} (value : Nat → α)
    {build : StatementBuilder → Except Error Statement}
    (hrun : op.run ex =
      plain op reply ((Session.execute ex t build).bind fun n ↦ .pure (value n))) :
    op.Asks ex .execute build fun _ n ↦ (.ok (reply (value n)), op) := by
  refine asks_of_plain ex .execute (fun _ n ↦ .ok (value n)) hrun ?_
  rw [Session.execute_eq_ask]
  exact Session.Action.bind_assoc ..

theorem asks_affected {op : Operation t} {build : StatementBuilder → Except Error Statement}
    (hrun : op.run ex = plain op .affected (Session.execute ex t build)) :
    op.Asks ex .execute build fun _ n ↦ (.ok (.affected n), op) :=
  asks_of_execute ex id (hrun.trans (congrArg (plain op _) (Session.Action.bind_pure _).symm))

theorem asks_getTracked (key : KeyValues) :
    (getTracked key : Operation t).Asks ex .query (·.selectById key) (getTracked key).finish := by
  refine asks_of_plain ex .query (fun m rows ↦
    ((Session.materialize t m rows).map List.head?).map (Option.map Tracked.new)) rfl ?_
  refine (Session.Action.bind_assoc ..).trans ?_
  refine congrArg (Session.Action.bind _) (funext fun x ↦ ?_)
  exact Session.Action.ofExcept_bind_pure ..

theorem asks_count (filter : Option Expr) :
    (count filter : Operation t).Asks ex .query (·.count filter) (count filter).finish := by
  refine asks_of_plain ex .query (fun _ rows ↦ firstNumber rows) rfl ?_
  refine congrArg (Session.Action.bind _) (funext fun x ↦ ?_)
  obtain ⟨m, rows⟩ := x
  unfold firstNumber
  cases hfirst : (List.head? rows).bind Row.first? with
  | some v => simp only [hfirst]
  | none =>
    simp only [hfirst]
    rfl

theorem asks_insert (e : t.Entity) :
    (insert e).Asks ex .insert (fun b ↦ .ok (b.dialect.insertPlan (b.insert (t.toRecord e))))
      (insert e).finish where
  failed h := by
    simp only [run, Session.insert_eq_ask, h]
    rfl
  answered {_ _ _ answer} h := by
    simp only [run, Session.insert_eq_ask, h]
    cases answer with
    | none => rfl
    | some row => rfl

theorem asks_updateTracked (e : t.Entity) :
    (updateTracked ⟨e, true⟩).Asks ex .execute (·.update (t.toRecord e))
      (updateTracked ⟨e, true⟩).finish where
  failed h := by
    simp only [run, Session.updateTracked, Session.update, Session.execute_eq_ask,
      Session.Action.bind, h]
    rfl
  answered h := by
    simp only [run, Session.updateTracked, Session.update, Session.execute_eq_ask,
      Session.Action.bind, h]
    rfl

/-- An operation that is not idle asks once and finishes. An empty batch and a clean entity are
idle. -/
theorem asks_of_not_idle {op : Operation t} (h : op.idle? = none) :
    op.Asks ex op.channel op.request op.finish := by
  cases op with
  | get key =>
    exact asks_of_plain ex .query (fun m rows ↦ (Session.materialize t m rows).map List.head?)
      rfl rfl
  | getTracked key => exact asks_getTracked ex key
  | getAll query => exact asks_of_plain ex .query (Session.materialize t) rfl rfl
  | count filter => exact asks_count ex filter
  | insert e => exact asks_insert ex e
  | insertMany es =>
    cases es with
    | nil => cases h
    | cons e es => exact asks_affected ex rfl
  | update e => exact asks_of_execute ex (fun n ↦ decide (0 < n)) rfl
  | updateMany es =>
    cases es with
    | nil => cases h
    | cons e es => exact asks_affected ex rfl
  | updateTracked e =>
    obtain ⟨e, dirty⟩ := e
    cases dirty with
    | false => cases h
    | true => exact asks_updateTracked ex e
  | delete e => exact asks_of_execute ex (fun n ↦ decide (0 < n)) rfl
  | deleteMany es =>
    cases es with
    | nil => cases h
    | cons e es => exact asks_affected ex rfl
  | deleteAll => exact asks_affected ex rfl

/-- The four courses that an operation can take, with the outcome and the calls of each. -/
inductive Course (op : Operation t) (s : Session σ) : Outcome t σ → List Exchange → Prop
  | idle {reply : Reply t} (h : op.idle? = some reply) : Course op s ⟨.ok reply, op, s⟩ []
  | refused {e : Error} (hidle : op.idle? = none)
    (h : op.prepare s.registry ex.dialect = .error e) :
    Course op s ⟨.error e, op, s.withMetadata t⟩ []
  | failed {m : EntityMeta} {request : op.channel.Request} {e : Error} {state : σ}
    (hidle : op.idle? = none) (h : op.prepare s.registry ex.dialect = .ok (m, request))
    (hanswer : ex.answer op.channel request s.options s.state = (.error e, state)) :
    Course op s ⟨.error e, op, { s.withMetadata t with state := state }⟩
      [⟨op.channel, request, s.options, some e⟩]
  | answered {m : EntityMeta} {request : op.channel.Request} {answer : op.channel.Answer}
    {state : σ} (hidle : op.idle? = none)
    (h : op.prepare s.registry ex.dialect = .ok (m, request))
    (hanswer : ex.answer op.channel request s.options s.state = (.ok answer, state)) :
    Course op s ⟨(op.finish m answer).1, (op.finish m answer).2,
      { s.withMetadata t with state := state }⟩ [⟨op.channel, request, s.options, none⟩]

/-- Every operation takes one of the four courses, from any session. -/
theorem exists_course (op : Operation t) (s : Session σ) : ∃ o calls, op.Course ex s o calls := by
  cases hidle : op.idle? with
  | some reply => exact ⟨_, _, .idle hidle⟩
  | none =>
    cases hprepare : op.prepare s.registry ex.dialect with
    | error e => exact ⟨_, _, .refused hidle hprepare⟩
    | ok prepared =>
      obtain ⟨m, request⟩ := prepared
      cases hanswer : ex.answer op.channel request s.options s.state with
      | mk answer state =>
        cases answer with
        | error e => exact ⟨_, _, .failed hidle hprepare hanswer⟩
        | ok answer => exact ⟨_, _, .answered hidle hprepare hanswer⟩

variable {ex}

/-- The course of an operation tells its outcome. -/
theorem Course.run_eq {op : Operation t} {s : Session σ} {o : Outcome t σ}
    {calls : List Exchange} (h : op.Course ex s o calls) : op.run ex s = o := by
  cases h with
  | idle h => exact run_of_idle ex h s
  | refused hidle h => exact (asks_of_not_idle ex hidle).failed (Session.ask_of_refused h)
  | failed hidle h hanswer =>
    exact (asks_of_not_idle ex hidle).failed (Session.ask_of_failed h hanswer)
  | answered hidle h hanswer =>
    exact (asks_of_not_idle ex hidle).answered (Session.ask_of_answered h hanswer)

end Operation

end EntitySql
