import UtxoWallet.Proofs.Attempt
import UtxoWallet.Proofs.Node.Posting

/-! # A node that is asked over HTTP

The questions to a node come to it as requests, and so do those that its answers lead to.
-/

namespace UtxoWallet.Node

open Ledger

/-! ## Nodes -/

/-- What a node does with a request when it has had others before. An answer may take for ever, and
then there is none. -/
abbrev Service := (before : List Request) → Request → Option Outcome

/-- Every request comes to an end, be it that the connection breaks. -/
def Service.AlwaysAnswers (n : Service) : Prop := ∀ before r, (n before r).isSome = true

/-- A node of which every request comes to an end. -/
abbrev Transport := (before : List Request) → Request → Outcome

def Service.transport (n : Service) (h : n.AlwaysAnswers) : Transport :=
  fun before r => (n before r).get (h before r)

/-- Requests and what came of them, the first one first. -/
abbrev Log := List (Request × Outcome)

namespace Transport

/-- Brings one more request to the node. -/
def bring (t : Transport) (r : Request) : StateM Log Outcome := fun had =>
  let outcome := t (had.map (·.1)) r
  (outcome, had ++ [(r, outcome)])

def ask (t : Transport) (a : Asked) : StateM Log a.call.Answer := a.call.exchange t.bring a.url

/-- All that these questions came to. -/
def log (t : Transport) (asked : List Asked) : Log :=
  asked.foldl (fun had a => ((t.ask a).run had).2) []

def node (t : Transport) (before : List Asked) (url : String) (call : Call) : call.Answer :=
  ((t.ask ⟨url, call⟩).run (t.log before)).1

def posts (t : Transport) (asked : List Asked) : Log :=
  (t.log asked).filter (·.1.method = .post)

end Transport

/-! ## Chains of requests -/

/-- Exchanges that begin with a request, and what they come to. Each answer but the last leads to the
request behind it, and `left` answers may do so. -/
inductive Chain (first : Url) : (left : Nat) → Request → Log → Except Breach (Nat × Body) → Prop
  | ends {left : Nat} {r : Request} {outcome : Outcome} {result : Except Breach (Nat × Body)}
      (h : r.turn first outcome = .ends result) : Chain first left r [(r, outcome)] result
  | tooFar {r : Request} {outcome : Outcome} {status : Nat} {url : Url}
      (h : r.turn first outcome = .leads status url) :
      Chain first 0 r [(r, outcome)] (.error (.tooManyRedirects first.text))
  | unspoken {left : Nat} {r : Request} {outcome : Outcome} {status : Nat} {url : Url}
      (h : r.turn first outcome = .leads status url) (hscheme : ¬isSpoken url = true) :
      Chain first (left + 1) r [(r, outcome)] (.error (.unusable first.text))
  | next {left : Nat} {r : Request} {outcome : Outcome} {status : Nat} {url : Url} {more : Log}
      {result : Except Breach (Nat × Body)} (h : r.turn first outcome = .leads status url)
      (hmore : Chain first left (r.redirected status url) more result) :
      Chain first (left + 1) r ((r, outcome) :: more) result

variable {t : Transport} {first : Url} {left status : Nat} {r : Request} {had chain : Log}
  {result : Except Breach (Nat × Body)}

theorem run_bring_bind {α : Type} (f : Outcome → StateM Log α) :
    (t.bring r >>= f).run had =
      (f (t (had.map (·.1)) r)).run (had ++ [(r, t (had.map (·.1)) r)]) := rfl

theorem run_follow_of_ends (h : r.turn first (t (had.map (·.1)) r) = .ends result) :
    (follow t.bring first left r).run had = (result, had ++ [(r, t (had.map (·.1)) r)]) := by
  cases left <;> rw [follow, run_bring_bind, h] <;> rfl

theorem run_follow_of_leads {url : Url} {more : Log}
    (h : r.turn first (t (had.map (·.1)) r) = .leads status url) (hscheme : isSpoken url = true)
    (hmore : (follow t.bring first left (r.redirected status url)).run
      (had ++ [(r, t (had.map (·.1)) r)]) = (result, had ++ [(r, t (had.map (·.1)) r)] ++ more)) :
    (follow t.bring first (left + 1) r).run had =
      (result, had ++ (r, t (had.map (·.1)) r) :: more) := by
  rw [follow, run_bring_bind, h]
  simp only [if_pos hscheme, hmore, List.append_assoc, List.singleton_append]

/-- Whatever the node answers, a request comes to a chain. -/
theorem exists_chain (t : Transport) (first : Url) (left : Nat) (r : Request) (had : Log) :
    ∃ chain result, (follow t.bring first left r).run had = (result, had ++ chain) ∧
      Chain first left r chain result := by
  induction left generalizing r had with
  | zero =>
    cases hturn : r.turn first (t (had.map (·.1)) r) with
    | ends result => exact ⟨_, result, run_follow_of_ends hturn, .ends hturn⟩
    | leads status url =>
      rw [follow, run_bring_bind, hturn]
      exact ⟨_, _, rfl, .tooFar hturn⟩
  | succ left ih =>
    cases hturn : r.turn first (t (had.map (·.1)) r) with
    | ends result => exact ⟨_, result, run_follow_of_ends hturn, .ends hturn⟩
    | leads status url =>
      by_cases hscheme : isSpoken url = true
      · obtain ⟨chain, result, hrun, hchain⟩ :=
          ih (r.redirected status url) (had ++ [(r, t (had.map (·.1)) r)])
        exact ⟨_, result, run_follow_of_leads hturn hscheme hrun, .next hturn hchain⟩
      · rw [follow, run_bring_bind, hturn]
        simp only [if_neg hscheme]
        exact ⟨_, _, rfl, .unspoken hturn hscheme⟩

/-- Nothing is posted in these exchanges. -/
def PostsNothing (l : Log) : Prop := ∀ x ∈ l, x.1.method = .get

theorem PostsNothing.filter_eq_nil {l : Log} (h : PostsNothing l) :
    l.filter (·.1.method = .post) = [] := by
  rw [List.filter_eq_nil_iff]
  intro x hx
  simp [h x hx]

theorem redirected_method_of_get (h : r.method = .get) (status : Nat) (url : Url) :
    (r.redirected status url).method = .get := by
  rw [Request.redirected]
  split
  · exact h
  · rfl

/-- What leads on from a question without a body has none either. -/
theorem Chain.postsNothing (h : Chain first left r chain result) (hr : r.method = .get) :
    PostsNothing chain := by
  induction h with
  | ends _ => simp [PostsNothing, hr]
  | tooFar _ => simp [PostsNothing, hr]
  | unspoken _ _ => simp [PostsNothing, hr]
  | next _ _ ih => exact List.forall_mem_cons.mpr ⟨hr, ih (redirected_method_of_get hr _ _)⟩

theorem Chain.exists_eq_cons (h : Chain first left r chain result) :
    ∃ outcome more, chain = (r, outcome) :: more := by
  cases h <;> exact ⟨_, _, rfl⟩

/-! ## Answers that count -/

/-- This answer leads nowhere. -/
def IsFinal (x : Request × Outcome) : Prop :=
  ∀ status body location, x.2 = .answered status body location → x.1.place? status location = none

/-- Exchanges that begin with a request. Each answer but the last leads to the request behind it, and
the last one has this status and leads nowhere. -/
inductive LeadsTo (status : Nat) : Request → Log → Prop
  | final {r : Request} {body : Body} {location : Option String}
      (h : r.place? status location = none) : LeadsTo status r [(r, .answered status body location)]
  | next {r : Request} {status' : Nat} {body : Body} {location : Option String} {url : Url}
      {more : Log} (h : r.place? status' location = some url)
      (hmore : LeadsTo status (r.redirected status' url) more) :
      LeadsTo status r ((r, .answered status' body location) :: more)

theorem turn_eq_ends_ok_iff {outcome : Outcome} {body : Body} :
    r.turn first outcome = .ends (.ok (status, body)) ↔
      ∃ location, outcome = .answered status body location ∧ r.place? status location = none := by
  cases outcome with
  | noAnswer => simp [Request.turn]
  | answered status' body' location =>
    rw [Request.turn]
    cases hplace : r.place? status' location with
    | none =>
      simp only [Turn.ends.injEq, Except.ok.injEq, Prod.mk.injEq, Outcome.answered.injEq]
      constructor
      · rintro ⟨rfl, rfl⟩
        exact ⟨location, ⟨rfl, rfl, rfl⟩, hplace⟩
      · rintro ⟨_, ⟨rfl, rfl, -⟩, -⟩
        exact ⟨rfl, rfl⟩
    | some url =>
      simp only [reduceCtorEq, Outcome.answered.injEq, false_iff, not_exists, not_and]
      rintro _ ⟨rfl, rfl, rfl⟩ hnone
      rw [hplace] at hnone
      cases hnone

theorem turn_eq_leads_iff {outcome : Outcome} {url : Url} :
    r.turn first outcome = .leads status url ↔
      ∃ body location, outcome = .answered status body location ∧
        r.place? status location = some url := by
  cases outcome with
  | noAnswer => simp [Request.turn]
  | answered status' body' location =>
    rw [Request.turn]
    cases hplace : r.place? status' location with
    | none =>
      simp only [reduceCtorEq, Outcome.answered.injEq, false_iff, not_exists, not_and]
      rintro _ _ ⟨rfl, rfl, rfl⟩ hsome
      rw [hplace] at hsome
      cases hsome
    | some url' =>
      simp only [Turn.leads.injEq, Outcome.answered.injEq]
      constructor
      · rintro ⟨rfl, rfl⟩
        exact ⟨body', location, ⟨rfl, rfl, rfl⟩, hplace⟩
      · rintro ⟨_, _, ⟨rfl, rfl, rfl⟩, hsome⟩
        rw [hplace] at hsome
        exact ⟨rfl, Option.some.inj hsome⟩

theorem leadsTo_cons_iff {outcome : Outcome} {more : Log} (first : Url) :
    LeadsTo status r ((r, outcome) :: more) ↔
      (∃ body, r.turn first outcome = .ends (.ok (status, body))) ∧ more = [] ∨
      ∃ status' url, r.turn first outcome = .leads status' url ∧
        LeadsTo status (r.redirected status' url) more := by
  simp only [turn_eq_ends_ok_iff, turn_eq_leads_iff]
  constructor
  · intro h
    cases h with
    | final h => exact .inl ⟨⟨_, _, rfl, h⟩, rfl⟩
    | next h hmore => exact .inr ⟨_, _, ⟨_, _, rfl, h⟩, hmore⟩
  · rintro (⟨⟨_, _, rfl, h⟩, rfl⟩ | ⟨_, _, ⟨_, _, rfl, h⟩, hmore⟩)
    · exact .final h
    · exact .next h hmore

theorem not_leadsTo_nil : ¬LeadsTo status r [] := nofun

/-- A chain leads to an answer exactly if that is what it comes to. -/
theorem Chain.leadsTo_iff (h : Chain first left r chain result) :
    LeadsTo status r chain ↔ ∃ body, result = .ok (status, body) := by
  induction h with
  | ends h => simp [leadsTo_cons_iff first, h]
  | tooFar h => simp [leadsTo_cons_iff first, h, not_leadsTo_nil]
  | unspoken h _ => simp [leadsTo_cons_iff first, h, not_leadsTo_nil]
  | next h _ ih => simp [leadsTo_cons_iff first, h, ih]

/-- A chain that begins with a final answer ends with it. -/
theorem Chain.eq_singleton_of_isFinal {outcome : Outcome} {more : Log}
    (h : Chain first left r ((r, outcome) :: more) result) (hfinal : IsFinal (r, outcome)) :
    more = [] := by
  have hstay : ∀ status url, r.turn first outcome ≠ .leads status url := by
    intro status url hturn
    obtain ⟨body, location, houtcome, hplace⟩ := turn_eq_leads_iff.mp hturn
    rw [hfinal status body location houtcome] at hplace
    cases hplace
  cases h with
  | ends _ => rfl
  | tooFar _ => rfl
  | unspoken _ _ => rfl
  | next h _ => exact absurd h (hstay _ _)

theorem LeadsTo.eq_answered_of_isFinal {outcome : Outcome} {more : Log}
    (h : LeadsTo status r ((r, outcome) :: more)) (hfinal : IsFinal (r, outcome)) :
    ∃ body location, outcome = .answered status body location := by
  cases h with
  | final _ => exact ⟨_, _, rfl⟩
  | next h _ =>
    rw [hfinal _ _ _ rfl] at h
    cases h

theorem LeadsTo.exists_eq_cons (h : LeadsTo status r chain) :
    ∃ outcome more, chain = (r, outcome) :: more := by
  cases h <;> exact ⟨_, _, rfl⟩

/-! ## The first post -/

/-- What is posted first tells where the posts begin. -/
theorem eq_of_append_eq_append {before before' more more' : Log} {x y : Request × Outcome}
    (h : before ++ x :: more = before' ++ y :: more') (hbefore : PostsNothing before)
    (hbefore' : PostsNothing before') (hx : x.1.method = .post) (hy : y.1.method = .post) :
    x = y ∧ more = more' := by
  have hdrop : ∀ {l rest : Log} {z : Request × Outcome}, PostsNothing l → z.1.method = .post →
      (l ++ z :: rest).dropWhile (·.1.method = .get) = z :: rest := by
    intro l rest z hl hz
    rw [List.dropWhile_append_of_pos (by simpa [PostsNothing] using hl)]
    exact List.dropWhile_cons_of_neg (by simp [hz])
  have hrest := congrArg (List.dropWhile (·.1.method = .get)) h
  rw [hdrop hbefore hx, hdrop hbefore' hy, List.cons.injEq] at hrest
  exact hrest

/-! ## Questions -/

namespace Transport

variable {asked : List Asked} {a : Asked} {tx : Transaction}

theorem run_ask (hr : a.call.request a.url = .ok r)
    (h : (follow t.bring r.url redirectLimit r).run had = (result, had ++ chain)) :
    (t.ask a).run had = (a.call.answer a.url result, had ++ chain) := by
  unfold ask Call.exchange
  rw [hr]
  simp only [StateT.run_bind, h]
  rfl

/-- A question comes to no request, or to a chain that begins with its own. -/
theorem ask_cases (t : Transport) (a : Asked) (had : Log) :
    (∃ breach, a.call.request a.url = .error breach ∧
      (t.ask a).run had = (.error (a.call.failure a.url breach), had)) ∨
    ∃ r chain result, a.call.request a.url = .ok r ∧ Chain r.url redirectLimit r chain result ∧
      (t.ask a).run had = (a.call.answer a.url result, had ++ chain) := by
  cases hr : a.call.request a.url with
  | error breach =>
    unfold ask Call.exchange
    rw [hr]
    exact .inl ⟨breach, rfl, rfl⟩
  | ok r =>
    obtain ⟨chain, result, hrun, hchain⟩ := exists_chain t r.url redirectLimit r had
    exact .inr ⟨r, chain, result, rfl, hchain, run_ask hr hrun⟩

theorem log_concat (t : Transport) (asked : List Asked) (a : Asked) :
    t.log (asked ++ [a]) = ((t.ask a).run (t.log asked)).2 := by
  rw [log, List.foldl_append]
  rfl

theorem postsNothing_concat (h : PostsNothing (t.log asked)) (hget : a.call.method = .get) :
    PostsNothing (t.log (asked ++ [a])) := by
  rw [log_concat]
  rcases t.ask_cases a (t.log asked) with ⟨_, -, hrun⟩ | ⟨r, chain, _, hrequest, hchain, hrun⟩
  · rwa [hrun]
  · rw [hrun]
    have hr : r.method = .get := (Request.parts_of_ofText hrequest).1.trans hget
    exact List.forall_mem_append.mpr ⟨h, hchain.postsNothing hr⟩

/-! ## Transactions that are handed over -/

theorem answer_submit (base : String) (tx : Transaction) (result : Except Breach (Nat × Body)) :
    (Call.submit tx).answer base result = ((Call.submit tx).success base result).map fun _ => () :=
  rfl

theorem answer_submit_eq_ok_iff {base : String} :
    (Call.submit tx).answer base result = .ok () ↔
      ∃ status < 400, ∃ body, result = .ok (status, body) := by
  rw [answer_submit, Json.map_eq_ok]
  cases result with
  | error breach => simp [Call.success]
  | ok answer =>
    obtain ⟨status, body⟩ := answer
    rw [Call.success]
    split
    · next hbad =>
      simp only [reduceCtorEq, false_and, exists_false, Except.ok.injEq, Prod.mk.injEq, false_iff,
        not_exists, not_and]
      rintro _ hlt _ rfl
      omega
    · next hgood => simp [Nat.not_le.mp hgood]

/-- The last of these questions came to a post of this transaction to the place for transactions, and
in the end to an answer with a status below four hundred. Nothing was posted before. -/
def Took (t : Transport) (base : String) (tx : Transaction) (asked : List Asked) : Prop :=
  ∃ before chain r body status, t.log asked = before ++ chain ∧ PostsNothing before ∧
    Request.ofText .post (base ++ "/transactions") (some body) = .ok r ∧
    Transaction.ofJson body = .ok tx ∧ LeadsTo status r chain ∧ status < 400

/-- Of these questions one was posted, to the place for transactions, with this one. The node answered
it with a status below four hundred. -/
def Accepted (t : Transport) (base : String) (tx : Transaction) (asked : List Asked) : Prop :=
  ∃ r body status answer location, t.posts asked = [(r, .answered status answer location)] ∧
    Request.ofText .post (base ++ "/transactions") (some body) = .ok r ∧
    Transaction.ofJson body = .ok tx ∧ status < 400

theorem not_took_of_postsNothing (h : PostsNothing (t.log asked)) (base : String)
    (tx : Transaction) : ¬t.Took base tx asked := by
  rintro ⟨before, chain, r, body, status, hsplit, -, hr, -, hleads, -⟩
  obtain ⟨outcome, more, rfl⟩ := hleads.exists_eq_cons
  have hget := h (r, outcome) (by rw [hsplit]; simp)
  rw [(Request.parts_of_ofText hr).1] at hget
  cases hget


theorem not_accepted_of_postsNothing (h : PostsNothing (t.log asked)) (base : String)
    (tx : Transaction) : ¬t.Accepted base tx asked := by
  rintro ⟨r, body, status, answer, location, hposts, -⟩
  rw [posts, h.filter_eq_nil] at hposts
  cases hposts

/-- What was handed over last. -/
inductive Submission (t : Transport) (asked : List Asked) (base : String) (tx : Transaction) : Prop
  | none {breach : Breach} (hrequest : (Call.submit tx).request base = .error breach)
      (hlog : t.log (asked ++ [⟨base, .submit tx⟩]) = t.log asked)
      (hanswer : t.node asked base (.submit tx) ≠ .ok ())
  | chain {r : Request} {outcome : Outcome} {more : Log} {result : Except Breach (Nat × Body)}
      (hrequest : (Call.submit tx).request base = .ok r)
      (hchain : Chain r.url redirectLimit r ((r, outcome) :: more) result)
      (hlog : t.log (asked ++ [⟨base, .submit tx⟩]) = t.log asked ++ (r, outcome) :: more)
      (hanswer : t.node asked base (.submit tx) = .ok () ↔
        ∃ status < 400, LeadsTo status r ((r, outcome) :: more))

theorem submission (t : Transport) (asked : List Asked) (base : String) (tx : Transaction) :
    t.Submission asked base tx := by
  have hconcat := t.log_concat asked ⟨base, .submit tx⟩
  rcases t.ask_cases ⟨base, .submit tx⟩ (t.log asked) with
    ⟨breach, hrequest, hrun⟩ | ⟨r, chain, result, hrequest, hchain, hrun⟩
  · refine .none hrequest (by rw [hconcat, hrun]) ?_
    rw [node, hrun]
    simp
  · obtain ⟨outcome, more, rfl⟩ := hchain.exists_eq_cons
    refine .chain hrequest hchain (by rw [hconcat, hrun]) ?_
    rw [node, hrun]
    simp only [hchain.leadsTo_iff]
    exact answer_submit_eq_ok_iff

/-- The body of a request for a transaction is read as this transaction and no other. -/
theorem ofJson_body_iff {base body : String} {tx' : Transaction}
    (h : (Call.submit tx).request base = .ok r)
    (h' : Request.ofText .post (base ++ "/transactions") (some body) = .ok r) :
    Transaction.ofJson body = .ok tx' ↔ tx' = tx := by
  have hbody : some tx.toJson = some body :=
    (Request.parts_of_ofText h).2.symm.trans (Request.parts_of_ofText h').2
  rw [← Option.some.inj hbody, ofJson_toJson, Except.ok.injEq, eq_comm]

/-- What is handed over when nothing was posted before is taken if the node says so. -/
theorem took_concat_iff {base : String} {tx' : Transaction} (hnone : PostsNothing (t.log asked)) :
    t.Took base tx' (asked ++ [⟨base, .submit tx⟩]) ↔
      tx' = tx ∧ t.node asked base (.submit tx) = .ok () := by
  cases t.submission asked base tx with
  | none hrequest hlog hanswer =>
    rw [← hlog] at hnone
    exact iff_of_false (not_took_of_postsNothing hnone base tx') fun h => hanswer h.2
  | @chain r outcome more result hrequest hchain hlog hanswer =>
    rw [hanswer]
    have hpost : r.method = .post := (Request.parts_of_ofText hrequest).1
    constructor
    · rintro ⟨before, chain, r', body, status, hsplit, hbefore, hr', hread, hleads, hlt⟩
      obtain ⟨outcome', more', rfl⟩ := hleads.exists_eq_cons
      have hsame := eq_of_append_eq_append (hlog.symm.trans hsplit) hnone hbefore hpost
        (Request.parts_of_ofText hr').1
      obtain ⟨⟨rfl, rfl⟩, rfl⟩ := hsame
      exact ⟨(ofJson_body_iff hrequest hr').mp hread, status, hlt, hleads⟩
    · rintro ⟨rfl, status, hlt, hleads⟩
      exact ⟨_, _, r, tx'.toJson, status, hlog, hnone, hrequest, ofJson_toJson tx', hleads, hlt⟩

/-- Where the post is answered for good, this is a matter of that answer. -/
theorem accepted_concat_iff {base : String} {tx' : Transaction}
    (hnone : PostsNothing (t.log asked))
    (hfinal : ∀ x ∈ t.posts (asked ++ [⟨base, .submit tx⟩]), IsFinal x) :
    t.Accepted base tx' (asked ++ [⟨base, .submit tx⟩]) ↔
      tx' = tx ∧ t.node asked base (.submit tx) = .ok () := by
  cases t.submission asked base tx with
  | none hrequest hlog hanswer =>
    rw [← hlog] at hnone
    exact iff_of_false (not_accepted_of_postsNothing hnone base tx') fun h => hanswer h.2
  | @chain r outcome more result hrequest hchain hlog hanswer =>
    have hpost : r.method = .post := (Request.parts_of_ofText hrequest).1
    have hposts : t.posts (asked ++ [⟨base, .submit tx⟩]) =
        (r, outcome) :: more.filter (·.1.method = .post) := by
      rw [posts, hlog, List.filter_append, hnone.filter_eq_nil, List.nil_append,
        List.filter_cons_of_pos (by simp [hpost])]
    have hend : IsFinal (r, outcome) := hfinal _ (by rw [hposts]; exact List.mem_cons_self)
    obtain rfl := hchain.eq_singleton_of_isFinal hend
    rw [hanswer]
    constructor
    · rintro ⟨r', body, status, answer, location, hone, hr', hread, hlt⟩
      rw [hposts, List.filter_nil, List.singleton_inj, Prod.mk.injEq] at hone
      obtain ⟨rfl, rfl⟩ := hone
      exact ⟨(ofJson_body_iff hrequest hr').mp hread, status, hlt, .final (hend _ _ _ rfl)⟩
    · rintro ⟨rfl, status, hlt, hleads⟩
      obtain ⟨body, location, rfl⟩ := hleads.eq_answered_of_isFinal hend
      exact ⟨r, tx'.toJson, status, body, location, hposts, hrequest, ofJson_toJson tx', hlt⟩

end Transport

end UtxoWallet.Node
