import Mathlib.Data.List.TakeWhile
import Dunning.Desk.Request
import Dunning.Proofs.Desk.Call
import Dunning.Proofs.Text.Joined
import Dunning.Proofs.Text.Percent

/-!
# Proofs/Desk/Retrieval — an account asked for by its id

    GET /api/v1/accounts/a%2Fb     ──▸  the account under a%2Fb  ──▸  200, the first whose id is a/b
    GET /api/v1/accounts/import    ──▸  imports                  ──▸  405

A segment that encodes an id is the last of its path and is read as the id, so the queue is asked
for it.  But imports have a path of their own, and that is also the path of the account whose id is
`import`.  It leads to imports (`Request.route?_account`), where nothing can be got, so this account
can be got only by a segment that spells its id with digits.
-/

namespace Dunning

namespace Request

variable {segment : String}

/-- A request for the account whose id a segment encodes. -/
def forAccount (segment : String) (headers : List (String × String)) (body : List UInt8) :
    Request :=
  ⟨"GET", "/api/v1/accounts/" ++ segment, headers, body⟩

/-- A segment without the characters that end one comes whole after those in front of it. -/
theorem segments_account (h : ∀ c ∈ segment.toList, ¬ (c = '/' ∨ c = '?' ∨ c = '#')) :
    segments ("/api/v1/accounts/" ++ segment) = ["", "api", "v1", "accounts", segment] := by
  have hfront : "/api/v1/accounts/".toList.all (fun c => c != '?' && c != '#') = true := by decide
  have hwhole : ∀ c ∈ ("/api/v1/accounts/" ++ segment).toList, (c != '?' && c != '#') = true := by
    intro c hc
    rw [String.toList_append, List.mem_append] at hc
    rcases hc with hc | hc
    · exact List.all_eq_true.1 hfront c hc
    · simpa using fun hout => h c hc (.inr hout)
  have hslash : ∀ t ∈ ["", "api", "v1", "accounts", segment], '/' ∉ t.toList := by
    have hlast : '/' ∉ segment.toList := fun hc => h '/' hc (.inl rfl)
    simpa using hlast
  have hjoined : (String.singleton '/').intercalate ["", "api", "v1", "accounts", segment] =
      "/api/v1/accounts/" ++ segment := by
    apply String.toList_injective
    simp
  have hsplit := Text.split_intercalate (List.cons_ne_nil _ _) hslash
  rw [hjoined, Text.split] at hsplit
  rw [segments, List.takeWhile_eq_self_iff.2 hwhole, hsplit]

/-- **A segment leads to the account whose id it encodes**, unless it is the one that leads to
imports. -/
theorem route?_account (h : ∀ c ∈ segment.toList, ¬ (c = '/' ∨ c = '?' ∨ c = '#'))
    (hne : segment ≠ "") :
    route? ("/api/v1/accounts/" ++ segment) =
      if segment = "import" then some .importUpdates else some (.account segment) := by
  simp only [route?, segments_account h, if_neg hne]

end Request

namespace Desk

variable {d : Desk} {s : Setting} {id segment : String} {a : Account}

/-- **What is read for an id is the first account that has it.** -/
theorem exists_account {o : Outage} (ho : o.reads = false) (h : ∃ a ∈ d.queue, a.id = id) :
    ∃ before a after, d.queue = before ++ a :: after ∧ a.id = id ∧ (∀ b ∈ before, b.id ≠ id) ∧
      d.account o id = .ok a := by
  have hsome : (find? d.queue id).isSome := by simpa [find?] using h
  obtain ⟨a, ha⟩ := Option.isSome_iff_exists.1 hsome
  obtain ⟨hid, before, after, hqueue, hbefore⟩ := List.find?_eq_some_iff_append.1 ha
  refine ⟨before, a, after, hqueue, by simpa using hid, by simpa using hbefore, ?_⟩
  rw [account, ho, if_neg Bool.false_ne_true, ha]

/-- What is asked of a route by `GET` is answered in full. -/
theorem respond_get {r : Request} {route : Request.Route} (hmethod : r.method = "GET")
    (hroute : Request.route? r.path = some route) :
    d.respond s r = d.dispatch s r route .get := by
  have hverb : Request.verb? "GET" = some .get := by decide
  have hbody : ¬ "GET" = "HEAD" := by decide
  simp only [respond, hroute, hmethod, hverb, if_neg hbody]

/-- The answer to a request for an account that can be read. -/
theorem respond_forAccount (hid : id ≠ "") (h : Text.Encodes segment id)
    (hok : d.account s.outage id = .ok a) (headers : List (String × String)) (body : List UInt8) :
    d.respond s (.forAccount segment headers body) =
      if segment = "import" then (.plain 405, d) else (⟨200, a.toJson⟩, d) := by
  have hmethod : (Request.forAccount segment headers body).method = "GET" := rfl
  have hroute : Request.route? (Request.forAccount segment headers body).path = _ :=
    Request.route?_account h.stays_inside (h.ne_empty hid)
  split_ifs at hroute ⊢ with himport
  · rw [respond_get hmethod hroute]
    rfl
  · rw [respond_get hmethod hroute, dispatch, withId, Text.percentDecode?_of_encodes h]
    simp only [shown, hok, answered]

theorem respond_forAccount_iff (hid : id ≠ "") (h : Text.Encodes segment id)
    (hok : d.account s.outage id = .ok a) (headers : List (String × String)) (body : List UInt8) :
    d.respond s (.forAccount segment headers body) = (⟨200, a.toJson⟩, d) ↔ segment ≠ "import" := by
  rw [respond_forAccount hid h hok]
  split_ifs with himport <;> simp [himport, Response.plain]

theorem percentEncode_import : Text.percentEncode "import" = "import" := by
  rw [Text.percentEncode, Text.toUTF8_eq_flatMap]
  decide +kernel

/-- Of no other text is `import` a segment. -/
theorem encodes_import_iff : Text.Encodes "import" id ↔ id = "import" := by
  have himport : Text.Encodes "import" "import" := by
    have h := Text.encodes_percentEncode "import"
    rwa [percentEncode_import] at h
  exact ⟨fun h => h.eq himport, fun h => h ▸ himport⟩

/-- The usual segment that leads to imports is that of one id only. -/
theorem percentEncode_eq_import_iff : Text.percentEncode id = "import" ↔ id = "import" := by
  constructor
  · intro h
    exact encodes_import_iff.1 (h ▸ Text.encodes_percentEncode id)
  · rintro rfl
    exact percentEncode_import

/-- **An account in the queue is got by its id, unless this is `import`.**  Where the queue can be
read, an id that occurs in it and is not empty gets the first account that has it, by every segment
that encodes the id but the one that leads to imports.  This encodes the id `import` only, and gets
nothing; so by the usual segment the account is got if and only if its id is another. -/
theorem listed_account_retrieved (hreads : s.outage.reads = false) (hid : id ≠ "")
    (hlisted : ∃ a ∈ d.queue, a.id = id) (headers : List (String × String)) (body : List UInt8) :
    ∃ before a after, d.queue = before ++ a :: after ∧ a.id = id ∧ (∀ b ∈ before, b.id ≠ id) ∧
      (∀ segment, Text.Encodes segment id →
        (d.respond s (.forAccount segment headers body) = (⟨200, a.toJson⟩, d) ↔
            segment ≠ "import") ∧
          (segment = "import" → id = "import" ∧
            d.respond s (.forAccount segment headers body) = (.plain 405, d))) ∧
      (d.respond s (.forAccount (Text.percentEncode id) headers body) = (⟨200, a.toJson⟩, d) ↔
        id ≠ "import") := by
  obtain ⟨before, a, after, hqueue, ha, hbefore, hok⟩ := exists_account hreads hlisted
  refine ⟨before, a, after, hqueue, ha, hbefore, fun segment h => ⟨?_, ?_⟩, ?_⟩
  · exact respond_forAccount_iff hid h hok headers body
  · rintro rfl
    exact ⟨encodes_import_iff.1 h, by rw [respond_forAccount hid h hok, if_pos rfl]⟩
  · rw [respond_forAccount_iff hid (Text.encodes_percentEncode id) hok headers body, Ne,
      percentEncode_eq_import_iff]

/-- A queue in which two accounts have one id, with characters that a segment cannot hold. -/
def doubled : Desk :=
  ((opened .standard).load .clear "seed"
    [{ Account.blank with id := "a/é", number := "A-1" },
      { Account.blank with id := "a/é", number := "A-2" }]).2

/-- The first of the two is got. -/
theorem listed_account_retrieved_doubled :
    ∃ a ∈ doubled.queue, a.number = "A-1" ∧
      doubled.respond ⟨.clear, true, ⟨0⟩⟩ (.forAccount "a%2F%C3%A9" [] []) =
        (⟨200, a.toJson⟩, doubled) := by
  have hsegment : Text.percentEncode "a/é" = "a%2F%C3%A9" := by
    rw [Text.percentEncode, Text.toUTF8_eq_flatMap]
    decide +kernel
  have hids : doubled.queue.map Account.id = ["a/é", "a/é"] := by decide +kernel
  have hnumbers : doubled.queue.map Account.number = ["A-1", "A-2"] := by decide +kernel
  have hlisted : ∃ a ∈ doubled.queue, a.id = "a/é" := by decide +kernel
  obtain ⟨before, a, after, hqueue, -, hbefore, -, hget⟩ :=
    listed_account_retrieved (s := ⟨.clear, true, ⟨0⟩⟩) rfl (by decide) hlisted [] []
  rw [hsegment] at hget
  refine ⟨a, by simp [hqueue], ?_, hget.2 (by decide)⟩
  rw [hqueue] at hids hnumbers
  cases before with
  | nil => exact (List.cons.inj hnumbers).1
  | cons b before => exact absurd (List.cons.inj hids).1 (hbefore b List.mem_cons_self)

/-- A queue with an account whose id is `import`. -/
def reserved : Desk :=
  ((opened .standard).load .clear "seed"
    [{ Account.blank with id := "import", number := "A-1" }]).2

/-- **An account whose id is `import` is in the queue, and is not got by it.** -/
theorem import_account_withheld :
    reserved.queue.map Account.id = ["import"] ∧ Text.percentEncode "import" = "import" ∧
      reserved.respond ⟨.clear, true, ⟨0⟩⟩ (.forAccount "import" [] []) = (.plain 405, reserved) ∧
      ¬ ∃ a ∈ reserved.queue,
        reserved.respond ⟨.clear, true, ⟨0⟩⟩ (.forAccount "import" [] []) =
          (⟨200, a.toJson⟩, reserved) :=
  ⟨by decide +kernel, percentEncode_import, by decide +kernel, by decide +kernel⟩

end Desk

end Dunning
