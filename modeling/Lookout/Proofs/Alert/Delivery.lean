import Lookout.Proofs.Alert.Chunks
import Lookout.Proofs.Alert.Markdown
import Lookout.Proofs.Json.RoundTrip
import Lookout.Proofs.Text.Utf8
import Lookout.Proofs.Url.Base
/-!
Deliveries to webhooks and to chats. What a request says is read off its body, which is decoded as
JSON, and for a chat as Markdown within it. A webhook gets the chunks of a text in turn up to the
first that is not accepted, and the report tells which one that was; a chat gets one request.
-/
namespace Lookout.Alert

/-! ### Requests and replies -/

/-- A request goes to an address, and its body is an object of these texts. -/
structure Post.Says (address : String) (fields : List (String × String)) (post : Post) : Prop where
  goes : post.address = address
  decodes : Json.ofString post.body = .ok (.ofFields (fields.map fun (k, v) => (k, .string v)))

/-- Whether a reply is a whole response with one of some statuses. -/
def Accepts (statuses : List Nat) (reply : Http.Reply) : Prop :=
  ∃ r, reply = .response r ∧ r.status ∈ statuses

/-- Texts are read back from the body that is made of them, whatever their characters. -/
theorem ofString_objectText (fields : List (String × String)) :
    Json.ofString (objectText fields) = .ok (.ofFields (fields.map fun (k, v) => (k, .string v))) := by
  apply Json.ofString_render_object
  intro field hField
  obtain ⟨⟨k, v⟩, _, rfl⟩ := List.mem_map.1 hField
  exact .string v

theorem says_discordPost (webhook : Url) (chunk : List Char) :
    (discordPost webhook chunk).Says webhook.render [("content", String.ofList chunk)] :=
  ⟨rfl, ofString_objectText _⟩

theorem says_telegramPost (endpoint : Url) (chat text : String) :
    (telegramPost endpoint chat text).Says endpoint.render
      [("chat_id", chat), ("text", String.ofList (Markdown.escape telegramLimit text.toList)),
        ("parse_mode", "MarkdownV2")] :=
  ⟨rfl, ofString_objectText _⟩

/-- A reply is a success, a failure or nothing, and a success exactly when it accepts. -/
theorem verdict?_eq_ok_iff {statuses : List Nat} {reply : Http.Reply} :
    verdict? statuses reply = some (.ok ()) ↔ Accepts statuses reply := by
  cases reply with
  | response r =>
      by_cases hStatus : r.status ∈ statuses
      · simp [verdict?, Accepts, hStatus]
      · simp [verdict?, Accepts, hStatus]
  | unreachable reason => simp [verdict?, Accepts]
  | cutOff status reason => simp [verdict?, Accepts]
  | silence => simp [verdict?, Accepts]

theorem verdict?_eq_none_iff {statuses : List Nat} {reply : Http.Reply} :
    verdict? statuses reply = none ↔ reply = .silence := by
  cases reply <;> simp [verdict?]

/-! ### Webhooks -/

/-- The first words of the failure of a chunk. -/
def stepText (place total : Nat) : String :=
  "sending chunk " ++ toString place ++ "/" ++ toString total

/-- How chunks are delivered of which so many are accepted, when the replies to them are those from an
index on: up to the first that is not accepted, each by a request that says just this chunk. -/
structure Delivered (webhook : Url) (reply : Nat → Http.Reply) (total index : Nat)
    (chunks : List (List Char)) (report : Report) (accepted : Nat) : Prop where
  posts : List.Forall₂
    (fun chunk post => post.Says webhook.render [("content", String.ofList chunk)])
    (chunks.take (accepted + 1)) report.posts
  le : accepted ≤ chunks.length
  accepts : ∀ i < accepted, Accepts discordAccepts (reply (index + i))
  refuses : accepted < chunks.length → ¬ Accepts discordAccepts (reply (index + accepted))
  ok : report.ending = some (.ok ()) ↔ accepted = chunks.length
  silent : report.ending = none ↔ accepted < chunks.length ∧ reply (index + accepted) = .silence
  /-- The failure tells the place of the chunk that was not accepted. -/
  failed : ∀ f, report.ending = some (.error f) →
    f.chain.head? = some (stepText (index + accepted + 1) total)

namespace Delivered
variable {webhook : Url} {reply : Nat → Http.Reply} {total index accepted : Nat} {chunk : List Char}
  {chunks : List (List Char)} {report : Report}

theorem nil : Delivered webhook reply total index [] ⟨[], some (.ok ())⟩ 0 where
  posts := .nil
  le := Nat.le_refl 0
  accepts _ hi := absurd hi (Nat.not_lt_zero _)
  refuses hLess := absurd hLess (Nat.not_lt_zero _)
  ok := iff_of_true rfl rfl
  silent := by simp
  failed _ hFailed := nomatch hFailed

/-- A chunk that is accepted comes before what becomes of those behind it. -/
theorem cons (hFirst : Accepts discordAccepts (reply index))
    (h : Delivered webhook reply total (index + 1) chunks report accepted) :
    Delivered webhook reply total index (chunk :: chunks)
      ⟨discordPost webhook chunk :: report.posts, report.ending⟩ (accepted + 1) := by
  have hShift (i : Nat) : index + 1 + i = index + (i + 1) := by omega
  constructor
  · exact .cons (says_discordPost webhook chunk) h.posts
  · exact Nat.succ_le_succ h.le
  · intro i hi
    cases i with
    | zero => exact hFirst
    | succ i =>
        rw [← hShift]
        exact h.accepts i (Nat.lt_of_succ_lt_succ hi)
  · intro hLess
    rw [← hShift]
    exact h.refuses (Nat.lt_of_succ_lt_succ hLess)
  · rw [List.length_cons, Nat.add_right_cancel_iff]
    exact h.ok
  · rw [List.length_cons, Nat.add_lt_add_iff_right, ← hShift]
    exact h.silent
  · rw [← hShift]
    exact h.failed

/-- A chunk that is not accepted is the last. -/
theorem single {ending : Option (Except Failure Unit)} (hRefused : ¬ Accepts discordAccepts (reply index))
    (hNotOk : ending ≠ some (.ok ())) (hSilent : ending = none ↔ reply index = .silence)
    (hFailed : ∀ f, ending = some (.error f) → f.chain.head? = some (stepText (index + 1) total)) :
    Delivered webhook reply total index (chunk :: chunks) ⟨[discordPost webhook chunk], ending⟩ 0 where
  posts := .cons (says_discordPost webhook chunk) .nil
  le := Nat.zero_le _
  accepts _ hi := absurd hi (Nat.not_lt_zero _)
  refuses _ := hRefused
  ok := iff_of_false hNotOk (by simp)
  silent := by simpa using hSilent
  failed := hFailed

end Delivered

/-- Chunks are delivered to a webhook of the web one after the other. -/
theorem exists_delivered {webhook : Url} (hWeb : isWeb webhook = true) (reply : Nat → Http.Reply)
    (total index : Nat) (chunks : List (List Char)) :
    ∃ accepted, Delivered webhook reply total index chunks
      (deliverChunks webhook reply total index chunks) accepted := by
  have hTarget : target webhook = .ok webhook := if_pos hWeb
  induction chunks generalizing index with
  | nil => exact ⟨0, .nil⟩
  | cons chunk chunks ih =>
      simp only [deliverChunks, hTarget]
      cases hVerdict : verdict? discordAccepts (reply index) with
      | none =>
          have hSilence := verdict?_eq_none_iff.1 hVerdict
          refine ⟨0, .single ?_ (by simp) (iff_of_true rfl hSilence) (by simp)⟩
          rintro ⟨r, hResponse, _⟩
          cases hSilence.symm.trans hResponse
      | some result =>
          cases result with
          | ok _ =>
              obtain ⟨accepted, hRest⟩ := ih (index + 1)
              exact ⟨accepted + 1, hRest.cons (verdict?_eq_ok_iff.1 hVerdict)⟩
          | error f =>
              refine ⟨0, .single ?_ (by simp) (iff_of_false (by simp) ?_) ?_⟩
              · intro hAccepts
                cases hVerdict.symm.trans (verdict?_eq_ok_iff.2 hAccepts)
              · intro hSilence
                cases hVerdict.symm.trans (verdict?_eq_none_iff.2 hSilence)
              · rintro _ ⟨⟩
                rfl

theorem discordLimit_pos : 0 < discordLimit := by decide

/-- No request is made to any other address, and the failure names the first chunk. -/
theorem deliverChunks_misdirected {webhook : Url} (hWeb : isWeb webhook = false)
    (reply : Nat → Http.Reply) {total : Nat} {chunks : List (List Char)} (hChunks : chunks ≠ []) :
    ∃ f, deliverChunks webhook reply total 0 chunks = ⟨[], some (.error f)⟩ ∧
      f.chain.head? = some (stepText 1 total) := by
  obtain ⟨f, hTarget⟩ : ∃ f, target webhook = .error f := ⟨_, if_neg (by simp [hWeb])⟩
  cases chunks with
  | nil => exact absurd rfl hChunks
  | cons chunk chunks =>
      simp only [deliverChunks, hTarget]
      exact ⟨_, rfl, rfl⟩

theorem toList_ne_nil {text : String} (h : text ≠ "") : text.toList ≠ [] := by
  intro hNone
  exact h (String.toList_inj.1 hNone)

theorem discordChunks_ne_nil {text : String} (h : text ≠ "") : discordChunks text ≠ [] := by
  intro hNone
  have hLossless := (Chunks.isGreedy_split discordLimit_pos text.toList).lossless
  change (discordChunks text).flatten = text.toList at hLossless
  rw [hNone] at hLossless
  exact toList_ne_nil h hLossless.symm

/-- Whatever a server replies to each request, and whatever the text: none is made of an empty text,
and that is a success. Any other text is cut into chunks that make it up again, none of them empty
and none longer than the limit; to a webhook of the web they are delivered in turn, each by one
request, up to the first that is not accepted, so that the delivery is a success exactly when all are
accepted, and a failure names the first that is not. To any other address no request is made, and the
failure names the first chunk. -/
theorem deliver_chunk_by_chunk (webhook : Url) (reply : Nat → Http.Reply) (text : String) :
    (text = "" → (Destination.discord webhook).deliver reply text = ⟨[], some (.ok ())⟩) ∧
    (text ≠ "" →
      (discordChunks text).flatten = text.toList ∧
      (∀ chunk ∈ discordChunks text, chunk ≠ [] ∧ chunk.length ≤ 2000) ∧
      (isWeb webhook = true → ∃ accepted, Delivered webhook reply (discordChunks text).length 0
        (discordChunks text) ((Destination.discord webhook).deliver reply text) accepted) ∧
      (isWeb webhook = false → ∃ f,
        (Destination.discord webhook).deliver reply text = ⟨[], some (.error f)⟩ ∧
        f.chain.head? = some (stepText 1 (discordChunks text).length))) := by
  refine ⟨?_, fun hText => ?_⟩
  · rintro rfl
    rfl
  have hGreedy := Chunks.isGreedy_split discordLimit_pos text.toList
  have hNil : [] ∉ discordChunks text := hGreedy.nonempty (toList_ne_nil hText)
  have hDeliver : (Destination.discord webhook).deliver reply text =
      deliverChunks webhook reply (discordChunks text).length 0 (discordChunks text) :=
    if_neg (by simpa using hText)
  refine ⟨hGreedy.lossless, fun chunk hChunk => ⟨fun hNone => hNil (hNone ▸ hChunk),
    hGreedy.bounded chunk hChunk⟩, fun hWeb => ?_, fun hWeb => ?_⟩
  · rw [hDeliver]
    exact exists_delivered hWeb reply _ 0 _
  · exact hDeliver ▸ deliverChunks_misdirected hWeb reply (discordChunks_ne_nil hText)

/-! ### Chats -/

/-- Whether requests can be made to addresses at a base: with a slash behind it, the base is itself an
address of the web. -/
def IsUsable (api : String) : Prop := ∃ url, targetOf (withoutSlashes api ++ "/") = .ok url

theorem targetOf_eq_ok_iff {text : String} {url : Url} :
    targetOf text = .ok url ↔ Url.parse text = .ok url ∧ isWeb url = true := by
  unfold targetOf target
  cases hParse : Url.parse text with
  | error e => simp
  | ok whole =>
      by_cases hWeb : isWeb whole = true
      · simp only [hWeb, if_true, Except.ok.injEq]
        constructor
        · rintro rfl
          exact ⟨rfl, hWeb⟩
        · exact And.left
      · simp only [hWeb, Bool.false_eq_true, if_false, reduceCtorEq, Except.ok.injEq, false_iff]
        rintro ⟨rfl, hSame⟩
        exact hWeb hSame

theorem kindOf_of_isWeb {url : Url} (h : isWeb url = true) : Url.kindOf url.scheme = .special := by
  unfold isWeb at h
  rcases Bool.or_eq_true_iff.1 h with hScheme | hScheme
  · rw [eq_of_beq hScheme]
    rfl
  · rw [eq_of_beq hScheme]
    rfl

/-- A bot has an address at every usable base, whatever its token. -/
theorem IsUsable.exists_endpoint {api : String} (h : IsUsable api) (token : String) :
    ∃ url, targetOf (telegramEndpoint (withoutSlashes api) token) = .ok url := by
  obtain ⟨base, hBase⟩ := h
  obtain ⟨hParse, hWeb⟩ := targetOf_eq_ok_iff.1 hBase
  have hText : telegramEndpoint (withoutSlashes api) token =
      withoutSlashes api ++ "/" ++ ("bot" ++ token ++ "/sendMessage") := by
    apply String.toList_inj.1
    simp [telegramEndpoint]
  have hLast : ∀ c ∈ ("bot" ++ token ++ "/sendMessage").toList.getLast?, 32 < c.toNat := by
    intro c hc
    rw [String.toList_append, List.getLast?_append] at hc
    obtain rfl : c = 'e' := by simpa using hc.symm
    decide
  obtain ⟨whole, hWhole, hScheme⟩ := Url.parse_slash hParse (kindOf_of_isWeb hWeb) hLast
  refine ⟨whole, targetOf_eq_ok_iff.2 ⟨hText ▸ hWhole, ?_⟩⟩
  rw [isWeb, hScheme]
  exact hWeb

theorem isUsable_loopback : IsUsable "http://[::1]:8080//" := by
  refine ⟨⟨"http", true, "", none, some (.groups [0, 0, 0, 0, 0, 0, 0, 1]), some 8080, .segments [""],
    none, none⟩, ?_⟩
  exact targetOf_eq_ok_iff.2 ⟨by decide +kernel, rfl⟩

/-- What a message may say of a text: some of its beginning, written with no markup, and all of the text
when that fits. -/
structure Tells (text sent : String) : Prop where
  nonempty : sent ≠ ""
  bounded : sent.length ≤ 4096
  reads : ∃ p, Markdown.unescape? sent.toList = some p ∧ p ≠ [] ∧ p <+: text.toList ∧
    ((text.toList.flatMap Markdown.escapeChar).length ≤ 4096 → p = text.toList)

/-- What fits is not empty, since any first character does. -/
theorem longestFit_ne_nil {text p : List Char} (hText : text ≠ [])
    (h : Markdown.IsLongestFit telegramLimit text p) : p ≠ [] := by
  obtain ⟨c, rest, rfl⟩ := List.exists_cons_of_ne_nil hText
  have hFits : Markdown.widthOf [c] ≤ telegramLimit := by
    change Markdown.width c + 0 ≤ 4096
    unfold Markdown.width
    split <;> omega
  have hFirst : [c] <+: p := h.longest [c] ⟨rest, rfl⟩ hFits
  rintro rfl
  exact absurd (List.prefix_nil.1 hFirst) (List.cons_ne_nil c [])

theorem tells_escape {text : String} (hText : text ≠ "") :
    Tells text (String.ofList (Markdown.escape telegramLimit text.toList)) := by
  obtain ⟨p, hWritten, hLongest⟩ := Markdown.exists_longestFit telegramLimit text.toList
  have hSome : p ≠ [] := longestFit_ne_nil (toList_ne_nil hText) hLongest
  have hRead : Markdown.unescape? (p.flatMap Markdown.escapeChar) = some p :=
    Markdown.unescape?_flatMap_escapeChar p
  rw [hWritten]
  constructor
  · intro hNone
    have hNil : p.flatMap Markdown.escapeChar = [] := by
      simpa using congrArg String.toList hNone
    rw [hNil] at hRead
    exact hSome (Option.some.inj hRead).symm
  · rw [String.length_ofList, Markdown.length_flatMap_escapeChar]
    exact hLongest.fits
  · refine ⟨p, by rw [String.toList_ofList, hRead], hSome, hLongest.begins, fun hWhole => ?_⟩
    rw [Markdown.length_flatMap_escapeChar] at hWhole
    exact hLongest.whole hWhole

/-- At every usable base, whatever the token, the chat, the text and what the server replies: no request
is made of an empty text, and that is a success. Of any other text one is made, with the chat, the
text as Markdown without any markup, and nothing else. The delivery is a success exactly when the reply
is whole and its status is 200, and a failure by another status tells it with the body. -/
theorem deliver_to_chat {api : String} (hApi : IsUsable api) (token chat text : String)
    (reply : Nat → Http.Reply) :
    (text = "" → (Destination.ofChat api token chat).deliver reply text = ⟨[], some (.ok ())⟩) ∧
    (text ≠ "" → ∃ url post sent ending,
      targetOf (telegramEndpoint (withoutSlashes api) token) = .ok url ∧
      (Destination.ofChat api token chat).deliver reply text = ⟨[post], ending⟩ ∧
      post.Says url.render [("chat_id", chat), ("text", sent), ("parse_mode", "MarkdownV2")] ∧
      Tells text sent ∧
      (ending = some (.ok ()) ↔ Accepts [200] (reply 0)) ∧
      (ending = none ↔ reply 0 = .silence) ∧
      (∀ r, reply 0 = .response r → r.status ≠ 200 →
        ending = some (.error ⟨["unexpected response status code " ++ Http.statusText r.status ++
          "; body (" ++ Text.decodeLossy r.body ++ ")"], none⟩))) := by
  refine ⟨?_, fun hText => ?_⟩
  · rintro rfl
    rfl
  obtain ⟨url, hTarget⟩ := hApi.exists_endpoint token
  have hDeliver : (Destination.ofChat api token chat).deliver reply text =
      ⟨[telegramPost url chat text], verdict? telegramAccepts (reply 0)⟩ := by
    simp only [Destination.ofChat, Destination.deliver, hTarget]
    exact if_neg (by simpa using hText)
  refine ⟨url, _, _, _, hTarget, hDeliver, says_telegramPost url chat text, tells_escape hText,
    verdict?_eq_ok_iff, verdict?_eq_none_iff, fun r hReply hStatus => ?_⟩
  rw [hReply]
  exact congrArg some (if_neg (by simpa [telegramAccepts] using hStatus))

theorem deliver_to_chat_notFound :
    ∃ post sent, (Destination.ofChat "http://[::1]:8080//" "1:A" "42").deliver
        (fun _ => .response ⟨400, [], "chat not found".toUTF8⟩) "a.b" =
      ⟨[post], some (.error
        ⟨["unexpected response status code 400 Bad Request; body (chat not found)"], none⟩)⟩ ∧
      Tells "a.b" sent := by
  obtain ⟨_, post, sent, ending, _, hDeliver, _, hTells, _, _, hFails⟩ :=
    (deliver_to_chat isUsable_loopback "1:A" "42" "a.b" fun _ =>
      .response ⟨400, [], "chat not found".toUTF8⟩).2 (by decide)
  have hEnding := hFails _ rfl (by decide)
  rw [Text.decodeLossy_toUTF8] at hEnding
  refine ⟨post, sent, ?_, hTells⟩
  rw [hDeliver, hEnding]
  rfl

end Lookout.Alert
