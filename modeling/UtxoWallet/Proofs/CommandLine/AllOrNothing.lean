import UtxoWallet.Proofs.CommandLine.Answer

/-! # A command tells everything or nothing -/

namespace UtxoWallet.CommandLine

open Attempt Result Files Wallet Ledger Node Curve

variable {s : Settings} {v : World} {fresh : SecretKey} {name sender recipient : String}
  {amount : Int64}

/-! ## Reports -/

theorem reported_line_iff {line text : String} :
    reported (.ok [line]) = ⟨0, text ++ "\n", ""⟩ ↔ line = text := by
  simp [reported, Printing.linesText]

theorem reported_error_ne {e : Wallet.Error} {text : String} :
    reported (.error e) ≠ ⟨0, text, ""⟩ := by
  simp [reported]

theorem report_create_iff (s : Settings) (fresh : SecretKey) (name address : String) (v : World) :
    reported ((request s fresh (.create name)).perform v).1 =
        ⟨0, name ++ ": " ++ address ++ "\n", ""⟩ ↔
      Store.Appended ⟨s.directory⟩ ⟨name, keyFileStart ++ name, address⟩ v
        ((request s fresh (.create name)).perform v).2 := by
  have htold := told_iff s fresh (.create name) v
  rcases h : (request s fresh (.create name)).perform v with ⟨result, v'⟩
  simp only [h, IsAnswer] at htold ⊢
  constructor
  · intro hreport
    cases result with
    | error e => exact absurd hreport reported_error_ne
    | ok lines =>
      obtain ⟨address', happended, rfl⟩ := (htold lines).mp rfl
      obtain rfl : address' = address := by simpa using reported_line_iff.mp hreport
      exact happended
  · intro happended
    rw [(htold _).mpr ⟨address, happended, rfl⟩]
    exact reported_line_iff.mpr rfl

theorem report_of_create (h : (reported ((request s fresh (.create name)).perform v).1).exit = 0) :
    reported ((request s fresh (.create name)).perform v).1 =
      ⟨0, name ++ ": " ++ Key.address fresh.point ++ "\n", ""⟩ := by
  cases hresult : ((request s fresh (.create name)).perform v).1 with
  | error e =>
    rw [hresult] at h
    cases h
  | ok lines =>
    rw [told_of_create hresult]
    exact reported_line_iff.mpr rfl

theorem reported_transfer_iff {sent : Except Wallet.Error Transaction} {hash : String} :
    reported (sent.map fun tx => [tx.hash]) = ⟨0, hash ++ "\n", ""⟩ ↔
      ∃ tx, sent = .ok tx ∧ tx.hash = hash := by
  cases sent with
  | error e => exact iff_of_false reported_error_ne (by simp)
  | ok tx => exact reported_line_iff.trans (by simp)

/-- A transfer that succeeds tells a hash and nothing else. -/
theorem exists_isHash_of_exit (h : (reported ((request s fresh
      (.transfer sender recipient amount)).perform v).1).exit = 0) :
    ∃ hash, IsHash hash ∧ reported ((request s fresh (.transfer sender recipient amount)).perform v).1 =
      ⟨0, hash ++ "\n", ""⟩ := by
  rcases perform_request_transfer s fresh sender recipient amount v with
    ⟨e, u, hfail, -⟩ | ⟨base, amount', -, hend⟩
  · rw [hfail] at h
    cases h
  · rw [hend] at h ⊢
    rcases hsent : (Client.transfer ⟨s.keystore, base⟩ sender recipient amount').perform (s.opened v)
      with ⟨result, u⟩
    rw [hsent] at h
    cases result with
    | error e => cases h
    | ok tx =>
      exact ⟨tx.hash, Client.isHash_of_transfer hsent, reported_transfer_iff.mpr ⟨tx, rfl, rfl⟩⟩

/-- What decides of a transfer that was sent decides of what is told. -/
theorem report_transfer_iff {P : String → Transaction → Prop} (hash : String)
    (hnone : ((request s fresh (.transfer sender recipient amount)).perform v).2.asked = v.asked →
      ∀ base tx, ¬P base tx)
    (hsome : ∀ (c : Client) amount' tx,
      let sent := (c.transfer sender recipient amount').perform (s.opened v)
      sent.2 = ((request s fresh (.transfer sender recipient amount)).perform v).2 →
        (sent.1 = .ok tx ↔ P c.node tx)) :
    reported ((request s fresh (.transfer sender recipient amount)).perform v).1 =
        ⟨0, hash ++ "\n", ""⟩ ↔
      ∃ base tx, s.url? = some base ∧ tx.hash = hash ∧ P base tx := by
  rcases perform_request_transfer s fresh sender recipient amount v with
    ⟨e, u, hfail, hsame⟩ | ⟨base, amount', ⟨-, hurl⟩, hend⟩
  · rw [hfail] at hnone ⊢
    refine iff_of_false reported_error_ne ?_
    rintro ⟨base, tx, -, -, hP⟩
    exact hnone hsame base tx hP
  · rw [hend] at hsome ⊢
    rw [reported_transfer_iff, hurl]
    constructor
    · rintro ⟨tx, hsent, hhash⟩
      exact ⟨base, tx, rfl, hhash, (hsome ⟨s.keystore, base⟩ amount' tx rfl).mp hsent⟩
    · rintro ⟨base', tx, hbase, hhash, hP⟩
      obtain rfl := Option.some.inj hbase
      exact ⟨tx, (hsome ⟨s.keystore, base⟩ amount' tx rfl).mpr hP, hhash⟩

theorem report_transfer_iff_took {t : Transport} (hnode : v.node = t.node) (hasked : v.asked = [])
    (hash : String) :
    reported ((request s fresh (.transfer sender recipient amount)).perform v).1 =
        ⟨0, hash ++ "\n", ""⟩ ↔
      ∃ base tx, s.url? = some base ∧ tx.hash = hash ∧
        t.Took base tx ((request s fresh (.transfer sender recipient amount)).perform v).2.asked := by
  refine report_transfer_iff hash ?_ ?_
  · intro hsame
    rw [hsame, hasked]
    exact Transport.not_took_of_postsNothing (List.forall_mem_nil _)
  · intro c amount' tx sent hend
    rw [← hend]
    exact c.transfer_eq_ok_iff_took (v := s.opened v) hnode hasked sender recipient amount' tx

theorem report_transfer_iff_accepted {t : Transport} (hnode : v.node = t.node)
    (hasked : v.asked = [])
    (hfinal : ∀ x ∈ t.posts ((request s fresh
      (.transfer sender recipient amount)).perform v).2.asked, IsFinal x) (hash : String) :
    reported ((request s fresh (.transfer sender recipient amount)).perform v).1 =
        ⟨0, hash ++ "\n", ""⟩ ↔
      ∃ base tx, s.url? = some base ∧ tx.hash = hash ∧
        t.Accepted base tx ((request s fresh (.transfer sender recipient amount)).perform v).2.asked := by
  refine report_transfer_iff hash ?_ ?_
  · intro hsame
    rw [hsame, hasked]
    exact Transport.not_accepted_of_postsNothing (List.forall_mem_nil _)
  · intro c amount' tx sent hend
    rw [← hend] at hfinal ⊢
    exact c.transfer_eq_ok_iff_accepted (v := s.opened v) hnode hasked sender recipient amount' tx hfinal

/-! ## Runs -/

def listing : Outcome := .answered 200 (.whole (Unspent.listToJson sampleUnspent).toUTF8)

def missing : Outcome := .answered 404 (.whole "no such path".toUTF8)

/-- Lists the sample's outputs and nothing else, and has one answer for all that is posted. -/
def listingService (posted : Outcome) : Service := fun _ r =>
  some (if r.method = .post then posted
    else if r.url.text = "http://localhost/transactions/unspent" then listing
    else missing)

theorem alwaysAnswers_listingService (posted : Outcome) : (listingService posted).AlwaysAnswers :=
  fun _ _ => rfl

def listingNode (posted : Outcome) : Transport :=
  (listingService posted).transport (alwaysAnswers_listingService posted)

def listingWorld (posted : Outcome) : World where
  files := sampleWorld.files
  start := []
  node := (listingNode posted).node
  asked := []

def homeCreate : List String := ["--dir", "home", "create", "--name", "alice"]

def localList : List String := ["--dir", ".", "--node", "localhost", "list"]

def localTransfer : List String :=
  ["--dir", ".", "--node", "localhost", "transfer", "--from", "alice", "--to", "QUJD", "--amount", "5"]

def localSettings : Settings := ⟨".", some "localhost"⟩

def localClient : Client := ⟨⟨⟨"."⟩, .plain⟩, "http://localhost"⟩

/-- What the node is asked for a transfer. -/
def localAsked (tx : Transaction) : List Asked :=
  [⟨"http://localhost", .unspent⟩, ⟨"http://localhost", .submit tx⟩]

/-- What comes of a transfer that is handed over. -/
def localAnswer (posted : Outcome) (tx : Transaction) : Except Node.Error Unit :=
  (listingNode posted).node [⟨"http://localhost", .unspent⟩] "http://localhost" (.submit tx)

variable {posted : Outcome} {tx : Transaction}

theorem reads :
    read homeCreate = .ok ⟨some "home", none, .create "alice"⟩ ∧
    read localList = .ok ⟨some ".", some "localhost", .list false⟩ ∧
    read localTransfer = .ok ⟨some ".", some "localhost", .transfer "alice" "QUJD" 5⟩ := by
  decide +kernel

theorem settings_local (command : Command) :
    settings ⟨some ".", some "localhost", command⟩ {} = localSettings := rfl

theorem hasDirectory_sample : sampleWorld.files.hasDirectory [] "." = true := rfl

theorem url_localSettings : localSettings.url? = some "http://localhost" := by decide +kernel

theorem connects_localSettings (posted : Outcome) :
    localSettings.Connects (listingWorld posted) "http://localhost" := by
  have hmade := Tree.makeDirectories_of_hasDirectory (.inr hasDirectory_sample)
  refine ⟨⟨⟨_, hmade⟩, ?_⟩, url_localSettings⟩
  rintro _ ⟨⟩
  exact ⟨_, rfl⟩

theorem opened_localSettings (posted : Outcome) :
    localSettings.opened (listingWorld posted) = listingWorld posted :=
  Settings.opened_of_hasDirectory (.inr hasDirectory_sample)

theorem run_localList (posted : Outcome) (fresh : SecretKey) :
    (run {} fresh localList).run (listingWorld posted) =
      (⟨0, "alice: " ++ sampleWallet.address ++ "\n", ""⟩, listingWorld posted) := by
  have hfound : localSettings.found (listingWorld posted) = .ok [sampleWallet] := by
    rw [found_eq_ok_iff, opened_localSettings]
    exact ⟨(connects_localSettings posted).1, listed_of_read_sample rfl⟩
  have hperform : (request localSettings fresh (.list false)).perform (listingWorld posted) = _ :=
    perform_list_bind _ _ _
  rw [run_of_read reads.2.1, settings_local, hperform, hfound, opened_localSettings]
  exact Prod.ext (reported_line_iff.mpr rfl) rfl

theorem listingNode_of_post {before : List Node.Request} {r : Node.Request} (h : r.method = .post) :
    listingNode posted before r = posted := by
  simp [listingNode, Service.transport, listingService, h]

theorem listingNode_of_get {before : List Node.Request} {r : Node.Request} (h : r.method = .get) :
    listingNode posted before r =
      if r.url.text = "http://localhost/transactions/unspent" then listing else missing := by
  simp [listingNode, Service.transport, listingService, h]

theorem ask_unspent (posted : Outcome) :
    ∃ r, r.method = .get ∧ ((listingNode posted).ask ⟨"http://localhost", .unspent⟩).run [] =
      (.ok sampleUnspent, [(r, listing)]) := by
  have htext : (Call.unspent.request "http://localhost").toOption.map (·.url.text) =
      some "http://localhost/transactions/unspent" := by decide +kernel
  obtain ⟨r, hr, hurl⟩ := Option.map_eq_some_iff.mp htext
  have hrequest := toOption_eq_some.mp hr
  have hget : r.method = .get := (Node.Request.parts_of_ofText hrequest).1
  have hanswer : listingNode posted (([] : Log).map (·.1)) r = listing := by
    rw [listingNode_of_get hget, if_pos hurl]
  have hturn : r.turn r.url (listingNode posted (([] : Log).map (·.1)) r) =
      .ends (.ok (200, .whole (Unspent.listToJson sampleUnspent).toUTF8)) := by
    rw [hanswer]
    rfl
  refine ⟨r, hget, ?_⟩
  rw [Transport.run_ask (a := ⟨"http://localhost", .unspent⟩) hrequest (run_follow_of_ends hturn),
    Call.answer_unspent_listToJson (by decide), hanswer]
  rfl

/-- The transfer is prepared and handed over, whatever becomes of it. -/
theorem exists_localTransfer (fresh : SecretKey) (posted : Outcome) :
    ∃ tx, (request localSettings fresh (.transfer "alice" "QUJD" 5)).perform (listingWorld posted) =
      ((Client.handedOver tx (localAnswer posted tx)).map fun tx => [tx.hash],
        { listingWorld posted with asked := localAsked tx }) := by
  have hlisted : (⟨"."⟩ : Store).listed (listingWorld posted) = .ok [sampleWallet] :=
    listed_of_read_sample rfl
  have hread : (listingWorld posted).files.read (listingWorld posted).start
      ((Store.mk ".").keyPath sampleWallet) = .ok (Key.pem sampleSecret).toUTF8 := rfl
  obtain ⟨r, -, hask⟩ := ask_unspent posted
  have hnode : (listingWorld posted).node (listingWorld posted).asked localClient.node .unspent =
      .ok sampleUnspent := by
    simp only [listingWorld, localClient, Transport.node, Transport.log, List.foldl_nil, hask]
  obtain ⟨tx, hprepared⟩ := exists_prepared_sample (c := localClient) (v := listingWorld posted)
    (Keystore.perform_wallet_eq_ok.mpr ⟨rfl, [sampleWallet], hlisted, rfl⟩) hnode
    (perform_loadKey_of_read hread)
  refine ⟨tx, ?_⟩
  have hsent := Client.perform_transfer_of_ok hprepared
  rw [localClient] at hsent
  have hamount : sent? 5 = .ok 5 := rfl
  rw [perform_request_of_connects hamount (connects_localSettings posted),
    opened_localSettings, Settings.keystore, localSettings]
  simp only [hsent]
  simp only [localAnswer, localAsked, listingWorld, List.nil_append, List.cons_append]

/-- Accepts what is posted. -/
def accepting : Outcome := .answered 204 (.whole .empty)

/-- Accepts what is posted, and names a place where nothing is. -/
def leading : Outcome := .answered 302 (.whole .empty) (some "/nowhere")

theorem answer_missing (tx : Transaction) :
    (Call.submit tx).answer "http://localhost" (.ok (404, .whole "no such path".toUTF8)) =
      .error (.status "/transactions" "http://localhost/transactions" 404 "no such path") := by
  have hexcerpt : (Body.whole "no such path".toUTF8).excerpt = "no such path" := by
    rw [Body.excerpt, Body.text?, Utf8.text_toUTF8]
    rfl
  rw [Transport.answer_submit, Call.success, if_pos (by decide), hexcerpt]
  rfl

/-- The transfer is posted, and from there an answer may lead to where nothing is. -/
theorem exists_submit_request (tx : Transaction) :
    ∃ r url, (Call.submit tx).request "http://localhost" = .ok r ∧ r.method = .post ∧
      r.place? 302 (some "/nowhere") = some url ∧ isSpoken url = true ∧
      url.text = "http://localhost/nowhere" := by
  have hplace : ((Node.Request.ofText .post "http://localhost/transactions" none).toOption.bind fun r =>
      (r.place? 302 (some "/nowhere")).map fun url => (isSpoken url, url.text)) =
        some (true, "http://localhost/nowhere") := by decide +kernel
  obtain ⟨r, hr, hmap⟩ := Option.bind_eq_some_iff.mp hplace
  obtain ⟨url, hurl, hpair⟩ := Option.map_eq_some_iff.mp hmap
  obtain ⟨hspoken, htext⟩ := Prod.mk.inj hpair
  have hpost := toOption_eq_some.mp hr
  exact ⟨{ r with body := some tx.toJson }, url, Node.Request.ofText_with_body tx.toJson hpost,
    (Node.Request.parts_of_ofText hpost).1, hurl, hspoken, htext⟩

theorem posts_localTransfer {r : Node.Request} {more : Log} {answer : Except Node.Error Unit}
    (hr : r.method = .post) (hmore : PostsNothing more)
    (h : ∀ had, ((listingNode posted).ask ⟨"http://localhost", .submit tx⟩).run had =
      (answer, had ++ (r, posted) :: more)) :
    (listingNode posted).posts (localAsked tx) = [(r, posted)] ∧ localAnswer posted tx = answer := by
  obtain ⟨r', hget, hask⟩ := ask_unspent posted
  constructor
  · simp only [localAsked, Transport.posts, Transport.log, List.foldl_cons, List.foldl_nil, hask, h]
    simpa [hget, hr] using hmore.filter_eq_nil
  · rw [localAnswer, Transport.node, h]

theorem run_localTransfer (posted : Outcome) (fresh : SecretKey) (answer : Except Node.Error Unit)
    (h : ∀ tx, localAnswer posted tx = answer) :
    ∃ tx, (run {} fresh localTransfer).run (listingWorld posted) =
      (reported ((Client.handedOver tx answer).map fun tx => [tx.hash]),
        { listingWorld posted with asked := localAsked tx }) := by
  obtain ⟨tx, htransfer⟩ := exists_localTransfer fresh posted
  refine ⟨tx, ?_⟩
  rw [run_of_read reads.2.2, settings_local, htransfer, h]

/-- An answer that leads nowhere is the only one, and it takes the transfer. -/
theorem localTransfer_taken (tx : Transaction) :
    ∃ r, (listingNode accepting).posts (localAsked tx) = [(r, accepting)] ∧
      localAnswer accepting tx = .ok () := by
  obtain ⟨r, url, hr, hpost, -⟩ := exists_submit_request tx
  have hnone : PostsNothing [] := List.forall_mem_nil _
  refine ⟨r, posts_localTransfer hpost hnone ?_⟩
  intro had
  have hanswer : listingNode accepting (had.map (·.1)) r = accepting := listingNode_of_post hpost
  have hturn : r.turn r.url (listingNode accepting (had.map (·.1)) r) =
      .ends (.ok (204, .whole .empty)) := by
    rw [hanswer]
    rfl
  rw [Transport.run_ask (a := ⟨"http://localhost", .submit tx⟩) hr (run_follow_of_ends hturn),
    hanswer]
  rfl

/-- An answer that leads to where nothing is stays the only one to a post, but nobody looks at its
status. -/
theorem localTransfer_redirected (tx : Transaction) :
    ∃ r, (Call.submit tx).request "http://localhost" = .ok r ∧
      (listingNode leading).posts (localAsked tx) = [(r, leading)] ∧
      localAnswer leading tx =
        .error (.status "/transactions" "http://localhost/transactions" 404 "no such path") := by
  obtain ⟨r, url, hr, hpost, hplace, hspoken, htext⟩ := exists_submit_request tx
  have hget : (r.redirected 302 url).method = .get := rfl
  have hnone : PostsNothing [(r.redirected 302 url, missing)] := List.forall_mem_singleton.mpr hget
  refine ⟨r, hr, posts_localTransfer hpost hnone ?_⟩
  intro had
  have hanswer : ∀ before, listingNode leading before r = leading :=
    fun _ => listingNode_of_post hpost
  have hmissing : ∀ before, listingNode leading before (r.redirected 302 url) = missing := by
    intro before
    have helse : (r.redirected 302 url).url.text ≠ "http://localhost/transactions/unspent" := by
      rw [show (r.redirected 302 url).url = url from rfl, htext]
      decide
    rw [listingNode_of_get hget, if_neg helse]
  have hturn : r.turn r.url (listingNode leading (had.map (·.1)) r) = .leads 302 url := by
    rw [hanswer, leading, Node.Request.turn, hplace]
  have hnext : (r.redirected 302 url).turn r.url (listingNode leading
      ((had ++ [(r, listingNode leading (had.map (·.1)) r)]).map (·.1))
      (r.redirected 302 url)) = .ends (.ok (404, .whole "no such path".toUTF8)) := by
    rw [hmissing]
    rfl
  rw [Transport.run_ask (a := ⟨"http://localhost", .submit tx⟩) hr
    (run_follow_of_leads hturn hspoken (run_follow_of_ends hnext)), answer_missing, hanswer, hmissing]

end UtxoWallet.CommandLine
