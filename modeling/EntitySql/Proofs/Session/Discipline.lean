import EntitySql.Proofs.Refusal
import EntitySql.Proofs.Schema.Memo
import EntitySql.Proofs.Session.Operation

/-!
# The discipline of a session

An executor that keeps a log shows what an operation asks of it: nothing or one thing, and nothing
just where the operation is idle or cannot state its request. Where nothing was asked or the
request failed, the error comes back as it is and the arguments are as they were. The registry
remembers the metadata of the entity type, and no other change is made to it.
-/

namespace EntitySql

variable {σ : Type}

/-! ## Watching an executor -/

def Executor.logged (ex : Executor σ) (c : Channel) (request : c.Request)
    (options : CommandOptions) (s : σ × List Exchange) :
    Except Error c.Answer × (σ × List Exchange) :=
  match ex.answer c request options s.1 with
  | (.ok answer, state) => (.ok answer, state, s.2 ++ [⟨c, request, options, none⟩])
  | (.error e, state) => (.error e, state, s.2 ++ [⟨c, request, options, some e⟩])

def Executor.watched (ex : Executor σ) : Executor (σ × List Exchange) where
  dialect := ex.dialect
  execute := ex.logged .execute
  query := ex.logged .query
  insert := ex.logged .insert

def Session.watched (s : Session σ) (log : List Exchange) : Session (σ × List Exchange) :=
  ⟨s.registry, s.options, s.state, log⟩

def Outcome.watched {t : EntityType} (o : Outcome t σ) (log : List Exchange) :
    Outcome t (σ × List Exchange) :=
  ⟨o.reply, o.after, o.session.watched log⟩

theorem Executor.answer_watched (ex : Executor σ) (c : Channel) :
    ex.watched.answer c = ex.logged c := by
  cases c with
  | _ => rfl

namespace Operation

variable {t : EntityType}

def calls (ex : Executor σ) (op : Operation t) (s : Session σ) : List Exchange :=
  (op.run ex.watched (s.watched [])).session.state.2

variable {ex : Executor σ} {op : Operation t} {s : Session σ}

/-- Watching changes nothing but the log, which comes to hold the calls of the course. -/
theorem Course.watched {o : Outcome t σ} {log : List Exchange} (h : op.Course ex s o log) :
    op.Course ex.watched (s.watched []) (o.watched log) log := by
  cases h with
  | idle h => exact .idle h
  | refused hidle h => exact .refused hidle h
  | failed hidle h hanswer =>
    refine .failed hidle h ?_
    rw [Executor.answer_watched, Executor.logged, Session.watched, hanswer]
    rfl
  | answered hidle h hanswer =>
    refine .answered hidle h ?_
    rw [Executor.answer_watched, Executor.logged, Session.watched, hanswer]
    rfl

/-- An operation takes one of the four courses, and its calls are those of that course. -/
theorem course (ex : Executor σ) (op : Operation t) (s : Session σ) :
    op.Course ex s (op.run ex s) (op.calls ex s) := by
  obtain ⟨o, log, h⟩ := exists_course ex op s
  rw [calls, h.watched.run_eq, h.run_eq]
  exact h

theorem refusing_request (op : Operation t) (b : StatementBuilder) : Refusing (op.request b) := by
  cases op with
  | get key => exact b.refusing_selectById key
  | getTracked key => exact b.refusing_selectById key
  | getAll query => exact b.refusing_select query
  | count filter => exact b.refusing_count filter
  | insert e => trivial
  | insertMany es => trivial
  | update e => exact b.refusing_update _
  | updateMany es => exact b.refusing_updateBatch _
  | updateTracked e => exact b.refusing_update _
  | delete e => exact b.refusing_delete _
  | deleteMany es => exact b.refusing_deleteBatch _
  | deleteAll => trivial

theorem refusing_prepare (op : Operation t) (r : Registry) (dialect : Dialect) :
    Refusing (op.prepare r dialect) :=
  (r.refusing_resolve t.descriptor).bind fun m ↦ (op.refusing_request ⟨m, dialect⟩).bind fun _ ↦
    trivial

namespace Course

variable {o : Outcome t σ} {log : List Exchange}

/-- An operation calls the executor at most once. -/
theorem length_le (h : op.Course ex s o log) : log.length ≤ 1 := by
  cases h with
  | idle => exact Nat.zero_le 1
  | refused => exact Nat.zero_le 1
  | failed => exact Nat.le_refl 1
  | answered => exact Nat.le_refl 1

theorem asked (h : op.Course ex s o log) : ∀ call ∈ log, ∃ m request,
    op.prepare s.registry ex.dialect = .ok (m, request) ∧
      call = ⟨op.channel, request, s.options, call.failure⟩ := by
  intro call hcall
  cases h with
  | idle => cases hcall
  | refused => cases hcall
  | failed _ h =>
    obtain rfl := List.mem_singleton.1 hcall
    exact ⟨_, _, h, rfl⟩
  | answered _ h =>
    obtain rfl := List.mem_singleton.1 hcall
    exact ⟨_, _, h, rfl⟩

/-- An operation calls nothing exactly where it is idle or its request is refused. -/
theorem eq_nil_iff (h : op.Course ex s o log) :
    log = [] ↔ op.idle?.isSome ∨ ∃ e, op.prepare s.registry ex.dialect = .error e := by
  cases h with
  | idle h => simp [h]
  | refused _ h => simp [h]
  | failed hidle h => simp [hidle, h]
  | answered hidle h => simp [hidle, h]

/-- A call that fails gives its error back and leaves the arguments as they were. -/
theorem failed_eq (h : op.Course ex s o log) : ∀ call ∈ log, ∀ e, call.failure = some e →
    o.reply = .error e ∧ o.after = op := by
  intro call hcall e he
  cases h with
  | idle => cases hcall
  | refused => cases hcall
  | failed =>
    obtain rfl := List.mem_singleton.1 hcall
    cases he
    exact ⟨rfl, rfl⟩
  | answered =>
    obtain rfl := List.mem_singleton.1 hcall
    cases he

/-- An operation changes the registry by one resolution or not at all. -/
theorem registry_eq (h : op.Course ex s o log) : o.session.registry = s.registry ∨
    o.session.registry = (s.registry.resolve t.descriptor).2 := by
  cases h with
  | idle => exact .inl rfl
  | refused => exact .inr rfl
  | failed => exact .inr rfl
  | answered => exact .inr rfl

end Course

/-- What may be relied on in an operation, whatever its arguments, the session and the executor. -/
structure Discipline (ex : Executor σ) (op : Operation t) (s : Session σ) : Prop where
  /-- The log that the calls are read from has no influence. -/
  watched : op.run ex.watched (s.watched []) = (op.run ex s).watched (op.calls ex s)
  length_calls : (op.calls ex s).length ≤ 1
  /-- What is asked is the request that was prepared, under the options of the session. -/
  asked : ∀ call ∈ op.calls ex s, ∃ m request,
    op.prepare s.registry ex.dialect = .ok (m, request) ∧
      call = ⟨op.channel, request, s.options, call.failure⟩
  calls_eq_nil_iff : op.calls ex s = [] ↔
    op.idle?.isSome ∨ ∃ e, op.prepare s.registry ex.dialect = .error e
  idle : ∀ reply, op.idle? = some reply → op.run ex s = ⟨.ok reply, op, s⟩
  refused : op.idle? = none → ∀ e, op.prepare s.registry ex.dialect = .error e →
    e.isRefusal = true ∧ op.run ex s = ⟨.error e, op, s.withMetadata t⟩
  failed : ∀ call ∈ op.calls ex s, ∀ e, call.failure = some e →
    (op.run ex s).reply = .error e ∧ (op.run ex s).after = op
  registry : (op.run ex s).session.registry = s.registry ∨
    ∃ m, s.registry.get? t.name = none ∧
      EntityMeta.resolve t.descriptor (s.registry.aliases.lookup t.name) s.registry.nameCase =
        .ok m ∧
      (op.run ex s).session.registry =
        { s.registry with resolved := (t.name, m) :: s.registry.resolved }

/-- Every operation keeps the discipline. -/
theorem disciplined (ex : Executor σ) (op : Operation t) (s : Session σ) :
    Discipline ex op s where
  watched := (course ex op s).watched.run_eq
  length_calls := (course ex op s).length_le
  asked := (course ex op s).asked
  calls_eq_nil_iff := (course ex op s).eq_nil_iff
  idle reply h := (Course.idle h).run_eq
  refused hidle e h := ⟨(op.refusing_prepare _ _).isRefusal h, (Course.refused hidle h).run_eq⟩
  failed := (course ex op s).failed_eq
  registry := by
    rcases (course ex op s).registry_eq with h | h
    · exact .inl h
    · rw [h]
      rcases s.registry.resolve_cases t.descriptor with
        ⟨m, -, heq⟩ | ⟨m, hget, hm, heq⟩ | ⟨e, -, -, heq⟩
      · exact .inl (by rw [heq])
      · exact .inr ⟨m, hget, hm, by rw [heq]; rfl⟩
      · exact .inl (by rw [heq])

/-- An entity that is all key can be deleted, with one call, but not updated. -/
example :
    let t : EntityType := ⟨"Tag", none, [⟨"id", .required .int64, .key⟩]⟩
    let e : t.Entity := ((7 : Int64), ())
    let ex : Executor Nat := {
      dialect := .sqlite
      execute := fun _ _ n ↦ (.ok 1, n + 1)
      query := fun _ _ n ↦ (.ok [], n + 1)
      insert := fun _ _ n ↦ (.ok none, n + 1) }
    let s : Session Nat := ⟨.empty .upper, ⟨none⟩, 0⟩
    (calls ex (.delete e) s).length = 1 ∧ (calls ex (.update e) s).length = 0 := by
  decide +kernel

end Operation

end EntitySql
