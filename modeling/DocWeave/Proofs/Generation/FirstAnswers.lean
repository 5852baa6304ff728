import DocWeave.Proofs.Generation.Questions

/-!
# Where every answer is accepted

Where every question gets an answer that is accepted, every job asks one question. On any schedule
these are the questions of all jobs, each of them once, and one worker asks them in the order of the
jobs.

* `Answers`, `answers_served` — what is known of whoever answers, and that a service is so
* `goesWell_next`, `GoesWell.step`, `exists_goesWell` — the invariant of one worker's work, and that
  of a pool
* `outcome_of_allWelcome` — what comes of jobs then, and what has been asked

Which answers are meant is told by the questions that have been asked in the end, so that nothing
has to be known of questions that are never asked.
-/

namespace DocWeave

/-- From `s` to `s'` these questions have been asked, each of them once, and nothing else; one after
the other, if `inOrder` holds. -/
def Session.Asked (inOrder : Prop) (qs : List Question) (s s' : Session) : Prop :=
  ∃ order, order.Perm qs ∧ (inOrder → order = qs) ∧ s'.asked = order.reverse ++ s.asked

namespace Session.Asked

variable {inOrder : Prop} {qs qs' : List Question} {s s' s'' : Session}

theorem of_asked_eq (h : s'.asked = s.asked) : s.Asked inOrder [] s' :=
  ⟨[], .refl _, fun _ => rfl, h⟩

theorem trans (h : s.Asked inOrder qs s') (h' : s'.Asked inOrder qs' s'') :
    s.Asked inOrder (qs ++ qs') s'' := by
  obtain ⟨order, hperm, heq, hasked⟩ := h
  obtain ⟨order', hperm', heq', hasked'⟩ := h'
  refine ⟨order ++ order', hperm.append hperm', fun hin => by rw [heq hin, heq' hin], ?_⟩
  rw [hasked', hasked, List.reverse_append, List.append_assoc]

/-- What is logged before and behind does not count. -/
theorem congr {r r' : Session} (h : s.Asked inOrder qs s') (hr : r.asked = s.asked)
    (hr' : r'.asked = s'.asked) : r.Asked inOrder qs r' := by
  obtain ⟨order, hperm, heq, hasked⟩ := h
  exact ⟨order, hperm, heq, by rw [hr', hasked, hr]⟩

end Session.Asked

namespace Generation

/-! ## Who answers -/

/-- Whoever answers notes every question, stays ready, and answers by what has been asked so far,
the question itself in front. -/
structure Answers (ask : Asker) (Ready : Session → Prop)
    (reply : List Question → Except Fault Text) : Prop where
  noting : Noting ask
  asked : ∀ q s, Ready s → (ask q s).2.asked = q :: s.asked
  answer : ∀ q s, Ready s → (ask q s).1 = reply (q :: s.asked)
  ready : ∀ q s, Ready s → Ready (ask q s).2
  log : ∀ s entries, Ready s → Ready (s.log entries)

/-- There is a client with these settings, by which questions can be sent. -/
def Serves (settings : Client.Settings) (s : Session) : Prop :=
  ∃ c, s.client = some c ∧ c.settings = settings ∧ c.ConnectedOnce

/-- What comes of sending the newest question to a service. -/
def servedReply (service : List Question → Client.Request → Except Fault Client.Response)
    (client : Client) : List Question → Except Fault Text
  | [] => .error .noKey
  | q :: asked =>
    ((service (q :: asked) (client.request q.prompt (some q.system) .null .null)).bind
      Client.Response.read).map Client.Response.content

/-- A client that has a key sends the question, whatever comes of it. -/
theorem served_of_key (timer : Timer) (now : Float)
    (service : List Question → Client.Request → Except Fault Client.Response) (q : Question)
    {s : Session} {c : Client} (hc : s.client = some c) (honce : c.ConnectedOnce)
    (hkey : c.settings.HasKey) :
    let r := Asker.served timer now service q s
    let answer := service (q :: s.asked) (c.request q.prompt (some q.system) .null .null)
    r.1 = (answer.bind Client.Response.read).map Client.Response.content
      ∧ r.2.asked = q :: s.asked
      ∧ ∃ c', r.2.client = some c' ∧ c'.settings = c.settings ∧ c'.ConnectedOnce
        ∧ c'.usage = c.usage.after answer := by
  obtain ⟨key, hkey, hne⟩ := hkey.exists_key
  have hrequest : (c.connectedBy key).request q.prompt (some q.system) .null .null
      = c.request q.prompt (some q.system) .null .null := rfl
  have hexchange : c.generate now q.prompt (some q.system) .null .null (service (q :: s.asked)) = _ :=
    congrArg Prod.fst (Client.exchange_of_ok (honce.connect_of_key hkey hne) ())
  simp only [hrequest] at hexchange
  unfold Asker.served
  simp only [hc, hexchange]
  exact ⟨trivial, rfl, _, rfl, rfl, Or.inr ⟨key, hkey, hne, rfl⟩, rfl⟩

/-- What is sent depends on nothing but the settings of a client. -/
theorem request_congr {c c' : Client} (h : c'.settings = c.settings) (prompt : Text)
    (system : Option Text) (maxTokens temperature : Value) :
    c'.request prompt system maxTokens temperature
      = c.request prompt system maxTokens temperature := by
  simp only [Client.request, h]

/-- Whoever has a key sends every question. -/
theorem served_of_serves (timer : Timer) (now : Float)
    (service : List Question → Client.Request → Except Fault Client.Response) {client : Client}
    (hkey : client.settings.HasKey) (q : Question) {s : Session} (hs : Serves client.settings s) :
    let r := Asker.served timer now service q s
    r.1 = servedReply service client (q :: s.asked) ∧ r.2.asked = q :: s.asked
      ∧ Serves client.settings r.2 := by
  obtain ⟨c, hc, hsettings, honce⟩ := hs
  obtain ⟨hanswer, hasked, c', hc', hsettings', honce', -⟩ :=
    served_of_key timer now service q hc honce (hsettings ▸ hkey)
  rw [request_congr hsettings] at hanswer
  exact ⟨hanswer, hasked, c', hc', hsettings'.trans hsettings, honce'⟩

theorem answers_served (timer : Timer) (now : Float)
    (service : List Question → Client.Request → Except Fault Client.Response) {client : Client}
    (hkey : client.settings.HasKey) :
    Answers (Asker.served timer now service) (Serves client.settings) (servedReply service client) where
  noting := noting_served timer now service
  asked q _ hs := (served_of_serves timer now service hkey q hs).2.1
  answer q _ hs := (served_of_serves timer now service hkey q hs).1
  ready q _ hs := (served_of_serves timer now service hkey q hs).2.2
  log _ _ hs := hs

/-- The answer is accepted. -/
def Welcome (answer : Except Fault Text) : Prop := ∃ b, Attempt.ofAnswer answer = .accepted b

/-- Every one of the questions asked, the newest in front, got an answer that is accepted. -/
def AllWelcome (reply : List Question → Except Fault Text) : List Question → Prop
  | [] => True
  | q :: asked => Welcome (reply (q :: asked)) ∧ AllWelcome reply asked

theorem AllWelcome.of_forall {reply : List Question → Except Fault Text}
    (h : ∀ q asked, Welcome (reply (q :: asked))) : ∀ asked, AllWelcome reply asked
  | [] => trivial
  | q :: asked => ⟨h q asked, of_forall h asked⟩

theorem AllWelcome.of_append {reply : List Question → Except Fault Text} {qs asked : List Question}
    (h : AllWelcome reply (qs ++ asked)) : AllWelcome reply asked := by
  induction qs with
  | nil => exact h
  | cons q qs ih => exact ih h.2

/-- What has been asked so far got such answers if all that has been asked in the end did. -/
theorem AllWelcome.of_onlyAsks {reply : List Question → Except Fault Text} {P : Question → Prop}
    {s s' : Session} (h : AllWelcome reply s'.asked) (hs : s.OnlyAsks P s') :
    AllWelcome reply s.asked := by
  obtain ⟨qs, heq, -⟩ := hs
  rw [heq] at h
  exact h.of_append

/-! ## One worker -/

/-- The question that a job asks first. -/
def Job.first? (j : Job) : Option Question :=
  j.prepared.toOption.map fun t => { t.question with job := j.number, attempt := 1 }

variable {ask : Asker} {Ready : Session → Prop} {reply : List Question → Except Fault Text}

namespace Stage

/-- No question has been asked yet. -/
def isUnasked : Stage → Bool
  | fresh => true
  | due _ _ _ => true
  | _ => false

/-- The work is at its first attempt and ends in a comment, as far as it has come. -/
def GoesWell (prepared : Except Failure Task) : Stage → Prop
  | fresh => ∃ t, prepared = .ok t
  | due t _ attempt => prepared = .ok t ∧ attempt = 1
  | answered _ _ _ answer => Welcome answer
  | settled result => ∃ b, result = .ok b

/-- A worker goes on without asking, or it asks the first question of its job, and then all goes well
if the answer is accepted. -/
theorem goesWell_next (hask : Answers ask Ready reply) {j : Job} {stage : Stage}
    (h : stage.GoesWell j.prepared) (hunsettled : stage.isSettled = false) {s : Session}
    (hs : Ready s) :
    let r := stage.next (ask.forJob j.number) j.prepared s
    Ready r.2 ∧ ((r.1.isUnasked = stage.isUnasked ∧ r.2.asked = s.asked ∧ r.1.GoesWell j.prepared)
      ∨ (stage.isUnasked = true ∧ r.1.isUnasked = false ∧ ∃ q, j.first? = some q
        ∧ r.2.asked = q :: s.asked ∧ (Welcome (reply r.2.asked) → r.1.GoesWell j.prepared))) := by
  cases stage with
  | fresh =>
    obtain ⟨t, ht⟩ := h
    rw [ht]
    exact ⟨hask.log s _ hs, Or.inl ⟨rfl, rfl, rfl, rfl⟩⟩
  | due t more attempt =>
    obtain ⟨ht, rfl⟩ := h
    let q : Question := { t.question with job := j.number, attempt := 1 }
    have hasked : (ask q s).2.asked = q :: s.asked := hask.asked q s hs
    have hfirst : j.first? = some q := by
      rw [Job.first?, ht]
      rfl
    refine ⟨hask.ready q s hs, Or.inr ⟨rfl, rfl, q, hfirst, hasked, fun hwelcome => ?_⟩⟩
    change Welcome (reply (ask q s).2.asked) at hwelcome
    change Welcome (ask q s).1
    rwa [hask.answer q s hs, ← hasked]
  | answered t more attempt answer =>
    obtain ⟨b, hb⟩ := h
    have hnext : (answered t more attempt answer).next (ask.forJob j.number) j.prepared s
        = (settled (.ok b), s.log [t.acceptedEntry]) := by
      simp only [Stage.next, hb, Task.concluded]
    rw [hnext]
    exact ⟨hask.log s _ hs, Or.inl ⟨rfl, rfl, b, rfl⟩⟩
  | settled result => cases hunsettled

end Stage

/-! ## A pool -/

/-- The job in hand, if nothing has been asked for it yet. -/
def Work.unasked? (w : Work) : Option Job := if w.stage.isUnasked then some w.job else none

theorem Work.unasked?_eq_none {w : Work} (h : w.stage.isUnasked = false) : w.unasked? = none := by
  simp [Work.unasked?, h]

theorem Work.unasked?_eq_some {w : Work} (h : w.stage.isUnasked = true) :
    w.unasked? = some w.job := by
  simp [Work.unasked?, h]

namespace Pool

variable {workers : Nat} {jobs taken asked : List Job} {s : Session} {p q : Pool}

/-- The jobs `taken` have been taken, and for those in `asked` the first question has been asked, in
this order. Nothing has failed. -/
structure GoesWell (Ready : Session → Prop) (workers : Nat) (jobs taken asked : List Job)
    (s : Session) (p : Pool) : Prop where
  rows : jobs = taken ++ p.waiting ++ p.ahead
  perm : (asked ++ p.busy.filterMap Work.unasked?).Perm taken
  /-- One worker has no more than one job in hand. -/
  inOrder : workers = 1 → p.busy.length ≤ 1 ∧ asked ++ p.busy.filterMap Work.unasked? = taken
  noted : p.session.asked = (asked.filterMap Job.first?).reverse ++ s.asked
  ready : Ready p.session
  busy : ∀ w ∈ p.busy, w.stage.GoesWell w.job.prepared
  done : ∀ d ∈ p.done, ∃ b, d.2 = .ok b
  going : p.failure = none
  /-- Nothing is collected before all jobs are handed in. -/
  collected : p.collected = [] ∨ p.ahead = []

theorem goesWell_start (hs : Ready s) : GoesWell Ready workers jobs [] [] s (start jobs s) where
  rows := rfl
  perm := .refl _
  inOrder _ := ⟨Nat.zero_le 1, rfl⟩
  noted := rfl
  ready := hs
  busy := by simp [start]
  done := by simp [start]
  going := rfl
  collected := Or.inl rfl

/-- A worker takes a job, for which nothing has been asked yet. -/
theorem GoesWell.take (hprepared : ∀ j ∈ jobs, ∃ t, j.prepared = .ok t)
    (h : GoesWell Ready workers jobs taken asked s p) {j : Job} {rest : List Job}
    (hwaiting : p.waiting = j :: rest) (hfree : p.busy.length < workers) :
    GoesWell Ready workers jobs (taken ++ [j]) asked s
      { p with waiting := rest, busy := p.busy ++ [{ job := j }] } := by
  have hrows := h.rows
  have hunasked : (p.busy ++ [({ job := j } : Work)]).filterMap Work.unasked?
      = p.busy.filterMap Work.unasked? ++ [j] := List.filterMap_append
  have hj : j ∈ jobs := by
    rw [hrows, hwaiting]
    simp
  refine { h with rows := ?_, perm := ?_, inOrder := ?_, busy := ?_ }
  · rw [hrows, hwaiting]
    simp
  · rw [hunasked, ← List.append_assoc]
    exact h.perm.append_right [j]
  · intro hone
    obtain ⟨-, heq⟩ := h.inOrder hone
    refine ⟨?_, ?_⟩
    · simp only [List.length_append, List.length_singleton]
      omega
    · rw [hunasked, ← List.append_assoc, heq]
  · refine List.forall_mem_append.mpr ⟨h.busy, List.forall_mem_singleton.mpr ?_⟩
    exact hprepared j hj

/-- What a worker has in hand changes, and nothing is asked. -/
theorem GoesWell.goOn (h : GoesWell Ready workers jobs taken asked s p) {front back : List Work}
    {w w' : Work} (hbusy : p.busy = front ++ w :: back) (hunasked : w'.unasked? = w.unasked?)
    (hw' : w'.stage.GoesWell w'.job.prepared) {session : Session} (hready : Ready session)
    (hnoted : session.asked = p.session.asked) :
    GoesWell Ready workers jobs taken asked s { p with busy := front ++ w' :: back, session } := by
  have hsame : (front ++ w' :: back).filterMap Work.unasked? = p.busy.filterMap Work.unasked? := by
    rw [hbusy, List.filterMap_append, List.filterMap_append, List.filterMap_cons,
      List.filterMap_cons, hunasked]
  refine { h with
    perm := ?_, inOrder := ?_, noted := hnoted.trans h.noted, ready := hready, busy := ?_ }
  · rw [hsame]
    exact h.perm
  · intro hone
    obtain ⟨hlen, heq⟩ := h.inOrder hone
    rw [hsame]
    exact ⟨by simpa [hbusy] using hlen, heq⟩
  · intro v hv
    rcases mem_append_cons hv with rfl | hv
    · exact hw'
    · exact h.busy v (by rw [hbusy]; exact mem_of_mem_append hv)

/-- A worker asks the first question of its job. -/
theorem GoesWell.asks (h : GoesWell Ready workers jobs taken asked s p) {front back : List Work}
    {w w' : Work} (hbusy : p.busy = front ++ w :: back) (hw : w.stage.isUnasked = true)
    (hw' : w'.stage.isUnasked = false) (hgoes : w'.stage.GoesWell w'.job.prepared)
    {question : Question} (hfirst : w.job.first? = some question) {session : Session}
    (hready : Ready session) (hnoted : session.asked = question :: p.session.asked) :
    GoesWell Ready workers jobs taken (asked ++ [w.job]) s
      { p with busy := front ++ w' :: back, session } := by
  have hbefore : p.busy.filterMap Work.unasked?
      = front.filterMap Work.unasked? ++ w.job :: back.filterMap Work.unasked? := by
    rw [hbusy, List.filterMap_append, List.filterMap_cons, Work.unasked?_eq_some hw]
  have hbehind : (front ++ w' :: back).filterMap Work.unasked?
      = front.filterMap Work.unasked? ++ back.filterMap Work.unasked? := by
    rw [List.filterMap_append, List.filterMap_cons, Work.unasked?_eq_none hw']
  refine { h with perm := ?_, inOrder := ?_, noted := ?_, ready := hready, busy := ?_ }
  · rw [hbehind, List.append_assoc, List.singleton_append]
    refine .trans (.append_left asked ?_) (hbefore ▸ h.perm)
    exact List.perm_middle.symm
  · intro hone
    obtain ⟨hlen, heq⟩ := h.inOrder hone
    -- the worker is the only one
    obtain ⟨rfl, rfl⟩ : front = [] ∧ back = [] := by
      rw [hbusy, List.length_append, List.length_cons] at hlen
      exact ⟨List.eq_nil_of_length_eq_zero (by omega), List.eq_nil_of_length_eq_zero (by omega)⟩
    rw [hbefore] at heq
    rw [hbehind]
    exact ⟨Nat.le_refl 1, by simpa using heq⟩
  · rw [hnoted, h.noted, List.filterMap_append]
    simp [hfirst]
  · intro v hv
    rcases mem_append_cons hv with rfl | hv
    · exact hgoes
    · exact h.busy v (by rw [hbusy]; exact mem_of_mem_append hv)

/-- A worker hands over the comment that its job has come to. -/
theorem GoesWell.handOver (h : GoesWell Ready workers jobs taken asked s p) {front back : List Work}
    {w : Work} {result : Except Failure Text} (hbusy : p.busy = front ++ w :: back)
    (hsettled : w.stage = .settled result) :
    GoesWell Ready workers jobs taken asked s
      { p with busy := front ++ back, done := (w.job.number, result) :: p.done } := by
  have hunasked : (front ++ back).filterMap Work.unasked? = p.busy.filterMap Work.unasked? := by
    rw [hbusy, List.filterMap_append, List.filterMap_append, List.filterMap_cons,
      Work.unasked?_eq_none (by rw [hsettled]; rfl)]
  have hw : w.stage.GoesWell w.job.prepared := h.busy w (by rw [hbusy]; simp)
  rw [hsettled] at hw
  refine { h with perm := ?_, inOrder := ?_, busy := ?_, done := ?_ }
  · rw [hunasked]
    exact h.perm
  · intro hone
    obtain ⟨hlen, heq⟩ := h.inOrder hone
    rw [hunasked]
    refine ⟨?_, heq⟩
    simp only [hbusy, List.length_append, List.length_cons] at hlen ⊢
    omega
  · intro v hv
    exact h.busy v (by rw [hbusy]; exact mem_of_mem_append hv)
  · exact List.forall_mem_cons.mpr ⟨hw, h.done⟩

/-- Whatever the next step is, all goes well as long as the answers are accepted. -/
theorem GoesWell.step (hask : Answers ask Ready reply)
    (hprepared : ∀ j ∈ jobs, ∃ t, j.prepared = .ok t)
    (h : GoesWell Ready workers jobs taken asked s p) (hs : Step ask workers p q)
    (hwelcome : AllWelcome reply q.session.asked) :
    ∃ taken asked, GoesWell Ready workers jobs taken asked s q := by
  cases hs with
  | @handIn j rest ahead =>
    refine ⟨taken, asked, { h with rows := ?_, collected := Or.inl ?_ }⟩
    · rw [h.rows, ahead]
      simp
    · exact h.collected.resolve_right (by rw [ahead]; exact List.cons_ne_nil j rest)
  | take waiting free => exact ⟨_, asked, h.take hprepared waiting free⟩
  | @advance w front back busy unsettled =>
    have hw := h.busy w (by rw [busy]; simp)
    obtain ⟨hready, ⟨hunasked, hsame, hgoes⟩ | ⟨hbefore, hbehind, question, hfirst, hnoted, hgoes⟩⟩ :=
      Stage.goesWell_next hask hw unsettled h.ready
    · have hunasked' : Work.unasked? { w with stage := (next ask w p.session).1 } = w.unasked? := by
        simp only [Work.unasked?, next, hunasked]
      exact ⟨taken, asked, h.goOn busy hunasked' hgoes hready hsame⟩
    · -- the question that has just been asked is the newest one
      change AllWelcome reply (next ask w p.session).2.asked at hwelcome
      have hnext : (next ask w p.session).2.asked = question :: p.session.asked := hnoted
      rw [hnext] at hwelcome
      have hgoes' := hgoes (by rw [hnoted]; exact hwelcome.1)
      exact ⟨taken, _, h.asks busy hbefore hbehind hgoes' hfirst hready hnoted⟩
  | handOver busy settled => exact ⟨taken, asked, h.handOver busy settled⟩
  | collect ahead going done => exact ⟨taken, asked, { h with collected := Or.inr ahead }⟩
  | fail ahead going done =>
    obtain ⟨b, hb⟩ := h.done _ done
    cases hb
  | drop stopped waiting =>
    rw [h.going] at stopped
    cases stopped

theorem exists_goesWell (hask : Answers ask Ready reply)
    (hprepared : ∀ j ∈ jobs, ∃ t, j.prepared = .ok t) (hs : Ready s)
    (hr : Run ask workers (start jobs s) p) (hwelcome : AllWelcome reply p.session.asked) :
    ∃ taken asked, GoesWell Ready workers jobs taken asked s p := by
  induction hr with
  | refl => exact ⟨[], [], goesWell_start hs⟩
  | tail hr hstep ih =>
    have hkeeps := keeps_of_run (preserved_atWork ask jobs) (fun _ hj => ⟨hj, trivial⟩) hr
    -- what has been asked before the last step got such answers as well
    have hasks := onlyAsks_of_follows hask.noting (follows_step hkeeps hstep)
    obtain ⟨taken, asked, h⟩ := ih (hwelcome.of_onlyAsks hasks)
    exact h.step hask hprepared hstep hwelcome

/-- Where all goes well and there is a result, it holds comments, and all jobs have been taken. -/
theorem GoesWell.result?_cases (h : GoesWell Ready workers jobs taken asked s p)
    {result : Except Failure (List Text)} (hres : p.result? jobs.length = some result) :
    (∃ bs, result = .ok bs) ∧ jobs = taken ∧ p.busy = [] := by
  unfold result? at hres
  split at hres
  · next hidle =>
    simp only [Bool.and_eq_true, List.isEmpty_iff] at hidle
    rw [h.going] at hres
    simp only at hres
    split at hres
    · next hlen =>
      have hrows := h.rows
      rw [hidle.1, List.append_nil] at hrows
      refine ⟨⟨_, (Option.some.inj hres).symm⟩, ?_, hidle.2⟩
      rcases h.collected with hnone | hahead
      · -- nothing has been collected because there are no jobs
        rw [hnone] at hlen
        obtain rfl := List.eq_nil_of_length_eq_zero hlen.symm
        exact (List.append_eq_nil_iff.mp hrows.symm).1.symm
      · rw [hrows, hahead, List.append_nil]
    · cases hres
  · cases hres

/-- There are comments for all jobs, and each job has asked one question. -/
theorem outcome_of_allWelcome (hask : Answers ask Ready reply)
    (hprepared : ∀ j ∈ jobs, ∃ t, j.prepared = .ok t) (hs : Ready s)
    {r : Except Failure (List Text) × Session} (h : Outcome ask workers jobs s r)
    (hwelcome : AllWelcome reply r.2.asked) :
    (∃ bs, r.1 = .ok bs) ∧ Ready r.2
      ∧ s.Asked (workers = 1) (jobs.filterMap Job.first?) r.2 := by
  obtain ⟨p, hr, hres, hsession⟩ := h
  rw [← hsession] at hwelcome ⊢
  obtain ⟨taken, asked, hgoes⟩ := exists_goesWell hask hprepared hs hr hwelcome
  obtain ⟨hresult, hrows, hbusy⟩ := hgoes.result?_cases hres
  have hperm := hgoes.perm
  rw [hbusy, List.filterMap_nil, List.append_nil, ← hrows] at hperm
  refine ⟨hresult, hgoes.ready, _, hperm.filterMap _, ?_, hgoes.noted⟩
  intro hone
  obtain ⟨-, heq⟩ := hgoes.inOrder hone
  rw [hbusy, List.filterMap_nil, List.append_nil, ← hrows] at heq
  rw [heq]

end Pool

end Generation

end DocWeave
