import Lookout.Config.Reading
import Lookout.Config.Writing
import Lookout.Proofs.Config.Ordered
import Lookout.Proofs.Duration
import Lookout.Proofs.Json.RoundTrip
/-!
Settings read back from the document that is written of them, and from its text.
-/
namespace Lookout.Config

open Json (Value KeysIncrease sortFields)

variable {s : Strictness} {α : Type}

/-! ### Scalars -/

theorem readText_ofJson (x : String) : readText s (.ofJson (.string x)) = .ok x := by
  cases s <;> rfl

theorem readTruth_ofJson (b : Bool) : readTruth s (.ofJson (.bool b)) = .ok b := by
  cases s <;> rfl

theorem readDuration_ofJson (d : Duration) : readDuration s (.ofJson (.string d.render)) = .ok d := by
  have hText : readTextAs s "a duration" (.ofJson (.string d.render)) = .ok d.render := by cases s <;> rfl
  rw [readDuration, hText]
  simp only [Duration.read?_render]

theorem readName_ofJson {type : String} {all : List α} {name : α → String} {a : α}
    (h : all.find? (fun b => name b == name a) = some a) :
    readName s type all name (.ofJson (.string (name a))) = .ok a := by
  cases s <;> simp only [Tree.ofJson, readName, findName, h]

/-! ### Sequences and mappings -/

theorem readEach_ofJson {read : Tree → Except Fault α} {write : α → Value} {list : List α}
    (h : ∀ a ∈ list, read (.ofJson (write a)) = .ok a) (i : Nat) :
    readEach read i (Tree.ofJsonItems (list.map write)) = .ok list := by
  induction list generalizing i with
  | nil => rfl
  | cons a list ih =>
      obtain ⟨hFirst, hRest⟩ := List.forall_mem_cons.1 h
      simp only [List.map_cons, Tree.ofJsonItems, readEach, hFirst, underStep, ih hRest]

theorem readList_ofJson {read : Tree → Except Fault α} {write : α → Value} {list : List α}
    (h : ∀ a ∈ list, read (.ofJson (write a)) = .ok a) :
    readList read (.ofJson (.array (list.map write))) = .ok list :=
  readEach_ofJson h 0

theorem readTexts_ofJson (list : List (String × String)) :
    readTexts s (Tree.ofJsonFields (list.map fun f => (f.1, Value.string f.2))) = .ok list := by
  induction list with
  | nil => rfl
  | cons f list ih => simp only [List.map_cons, Tree.ofJsonFields, readTexts, readText_ofJson, underStep, ih]

theorem readTextMap_ofJson {list : List (String × String)} (hKeys : KeysIncrease list) :
    readTextMap s (.ofJson (textMap list)) = .ok list := by
  have hSorted : KeysIncrease (list.map fun f => (f.1, Value.string f.2)) := List.pairwise_map.2 hKeys
  have hMap : textMap list = .object (list.map fun f => (f.1, Value.string f.2)) :=
    congrArg Value.object (Json.sortFields_of_keysIncrease hSorted)
  rw [hMap]
  exact readTexts_ofJson list

/-! ### Records -/

namespace Record
variable {r : Record α} {a : α} {fields sorted : List (String × Value)}

/-- What is read from a document is what its fields lead to in the order of their keys. -/
theorem readFrom_ofJson (hSorted : sortFields fields = sorted)
    (h : r.putFields r.start (Tree.ofJsonFields sorted) = .ok a) :
    r.readFrom (.ofJson (.ofFields fields)) = .ok (a, false) := by
  rw [Value.ofFields, hSorted, Tree.ofJson, readFrom, h]
  rfl

theorem checkLength_ofJson : checkLength s r (.ofJson (.ofFields fields)) = .ok () := by
  cases s <;> rfl

theorem read_ofJson (hSorted : sortFields fields = sorted)
    (h : r.putFields r.start (Tree.ofJsonFields sorted) = .ok a) :
    r.read s (.ofJson (.ofFields fields)) = .ok a := by
  rw [read, readFrom_ofJson hSorted h, checkLength_ofJson]
  rfl

end Record

theorem Log.read_toJson (l : Log) : Log.read s (.ofJson l.toJson) = .ok l := by
  have hFormat : LogFormat.all.find? (fun f => f.name == l.format.name) = some l.format := by
    cases l.format <;> rfl
  have hLevel : LogLevel.all.find? (fun v => v.name == l.level.name) = some l.level := by
    cases l.level <;> rfl
  have hSorted : sortFields [("format", Value.string l.format.name), ("level", .string l.level.name),
      ("caller", .bool l.caller)] = [("caller", .bool l.caller), ("format", .string l.format.name),
      ("level", .string l.level.name)] := rfl
  apply Record.read_ofJson hSorted
  simp [Record.putFields, Tree.ofJsonFields, record, underStep, readTruth_ofJson, readName_ofJson hFormat,
    readName_ofJson hLevel]

theorem HttpTarget.read_toJson (t : HttpTarget) (h : KeysIncrease t.header) :
    HttpTarget.read s (.ofJson t.toJson) = .ok t := by
  have hSorted : sortFields [("method", Value.string t.method), ("url", .string t.url),
      ("header", textMap t.header), ("body", .string t.body)] = [("body", .string t.body),
      ("header", textMap t.header), ("method", .string t.method), ("url", .string t.url)] := rfl
  apply Record.read_ofJson hSorted
  simp [Record.putFields, Tree.ofJsonFields, record, underStep, readText_ofJson, readTextMap_ofJson h]

theorem QueryTexts.read_toJson (q : QueryTexts) (h : KeysIncrease q.bindings) :
    (QueryTexts.record s).read s (.ofJson q.toJson) = .ok q := by
  have hSorted : sortFields [("check", Value.string q.check), ("variables", textMap q.bindings)] =
      [("check", .string q.check), ("variables", textMap q.bindings)] := rfl
  apply Record.read_ofJson hSorted
  simp [Record.putFields, Tree.ofJsonFields, record, underStep, readText_ofJson, readTextMap_ofJson h]

theorem Crawl.readTarget_toJson (t : HttpTarget) (h : KeysIncrease t.header) :
    Crawl.readTarget s (.ofJson (.ofFields [("http", t.toJson)])) = .ok t := by
  have hSorted : sortFields [("http", t.toJson)] = [("http", t.toJson)] := rfl
  have hFrom : (targetRecord s).readFrom (.ofJson (.ofFields [("http", t.toJson)])) = .ok (some t, false) := by
    apply Record.readFrom_ofJson hSorted
    simp [Record.putFields, Tree.ofJsonFields, targetRecord, underStep, HttpTarget.read_toJson t h, Except.map]
  rw [readTarget]
  simp only [hFrom, Record.checkLength_ofJson]
  rfl

theorem Crawl.read_toJson (c : Crawl) (h : Pipeline.IsOrdered c) : Crawl.read s (.ofJson c.toJson) = .ok c := by
  have hSorted : sortFields [("name", Value.string c.name), ("enabled", .bool c.enabled),
      ("interval", .string c.interval.render), ("target", .ofFields [("http", c.target.toJson)]),
      ("query", c.query.toJson), ("message", .string c.message)] = [("enabled", .bool c.enabled),
      ("interval", .string c.interval.render), ("message", .string c.message), ("name", .string c.name),
      ("query", c.query.toJson), ("target", .ofFields [("http", c.target.toJson)])] := rfl
  have hFrom : (record s).readFrom (.ofJson c.toJson) =
      .ok (⟨some c.name, c.enabled, c.interval, some c.target, c.query, c.message⟩, false) := by
    apply Record.readFrom_ofJson hSorted
    simp [Record.putFields, Tree.ofJsonFields, record, underStep, readText_ofJson, readTruth_ofJson,
      readDuration_ofJson, QueryTexts.read_toJson c.query h.bindings, readTarget_toJson c.target h.header]
  have hLength : (record s).checkLength s (.ofJson c.toJson) = .ok () := Record.checkLength_ofJson
  rw [read]
  simp only [hFrom, hLength]
  rfl

theorem Telegram.read_toJson (t : Telegram) : (Telegram.record s).read s (.ofJson (.ofFields
    [("bot-token", .string t.botToken), ("chat-ids", textList t.chatIds)])) = .ok t := by
  have hSorted : sortFields [("bot-token", Value.string t.botToken), ("chat-ids", textList t.chatIds)] =
      [("bot-token", .string t.botToken), ("chat-ids", textList t.chatIds)] := rfl
  apply Record.read_ofJson hSorted
  have hIds : readList (readText s) (.ofJson (textList t.chatIds)) = .ok t.chatIds :=
    readList_ofJson fun x _ => readText_ofJson x
  simp [Record.putFields, Tree.ofJsonFields, record, underStep, readText_ofJson, hIds]

theorem Discord.read_toJson (d : Discord) : (Discord.record s).read s (.ofJson (.ofFields
    [("webhook-urls", textList d.webhookUrls)])) = .ok d := by
  have hSorted : sortFields [("webhook-urls", textList d.webhookUrls)] =
      [("webhook-urls", textList d.webhookUrls)] := rfl
  apply Record.read_ofJson hSorted
  have hUrls : readList (readText s) (.ofJson (textList d.webhookUrls)) = .ok d.webhookUrls :=
    readList_ofJson fun x _ => readText_ofJson x
  simp [Record.putFields, Tree.ofJsonFields, record, underStep, hUrls]

theorem Alerts.read_toJson (a : Alerts) : Alerts.read s (.ofJson a.toJson) = .ok a := by
  have hKind : AlertKind.all.find? (fun k => k.name == a.kind.name) = some a.kind := by
    cases a.kind <;> rfl
  let telegram : Value := .ofFields [("bot-token", .string a.telegram.botToken),
    ("chat-ids", textList a.telegram.chatIds)]
  let discord : Value := .ofFields [("webhook-urls", textList a.discord.webhookUrls)]
  have hSorted : sortFields [("type", Value.string a.kind.name), ("telegram", telegram), ("discord", discord)] =
      [("discord", discord), ("telegram", telegram), ("type", .string a.kind.name)] := rfl
  apply Record.read_ofJson hSorted
  simp [Record.putFields, Tree.ofJsonFields, record, underStep, readName_ofJson hKind, telegram, discord,
    Telegram.read_toJson a.telegram, Discord.read_toJson a.discord]

theorem read_toJson (c : Config) (h : ∀ crawl ∈ c.crawls, Pipeline.IsOrdered crawl) :
    read s (.ofJson c.toJson) = .ok c := by
  have hCrawls : readList (Crawl.read s) (.ofJson (.array (c.crawls.map Crawl.toJson))) = .ok c.crawls :=
    readList_ofJson fun crawl hMem => Crawl.read_toJson crawl (h crawl hMem)
  have hSorted : sortFields [("log", c.log.toJson), ("crawls", .array (c.crawls.map Crawl.toJson)),
      ("alerts", c.alerts.toJson)] = [("alerts", c.alerts.toJson),
      ("crawls", .array (c.crawls.map Crawl.toJson)), ("log", c.log.toJson)] := rfl
  apply Record.read_ofJson hSorted
  simp [Record.putFields, Tree.ofJsonFields, record, underStep, Alerts.read_toJson, Log.read_toJson, hCrawls]

/-- Settings that are loaded are read back from the document that is written of them. -/
theorem ofJson_toJson_of_load {directory : String} {files : String → Option ByteArray}
    {bindings : List (String × String)} {c : Config} (h : load directory files bindings = .ok c) :
    ofJson c.toJson = .ok c :=
  read_toJson c (isOrdered_of_load h)

/-! ### Texts -/

theorem isPlain_ofFields {depth : Nat} {fields : List (String × Value)} (h : ∀ f ∈ fields, f.2.IsPlain depth) :
    (Value.ofFields fields).IsPlain (depth + 1) :=
  .object (Json.keysIncrease_sortFields fields) fun f hf => h f (Json.mem_of_mem_sortFields hf)

theorem isPlain_textMap (depth : Nat) (list : List (String × String)) : (textMap list).IsPlain (depth + 1) := by
  apply isPlain_ofFields
  intro f hf
  obtain ⟨g, -, rfl⟩ := List.mem_map.1 hf
  exact .string g.2

theorem isPlain_textList (depth : Nat) (list : List String) : (textList list).IsPlain (depth + 1) := by
  apply Value.IsPlain.array
  intro v hv
  obtain ⟨x, -, rfl⟩ := List.mem_map.1 hv
  exact .string x

theorem HttpTarget.isPlain_toJson (depth : Nat) (t : HttpTarget) : t.toJson.IsPlain (depth + 2) := by
  apply isPlain_ofFields
  simp only [List.forall_mem_cons]
  exact ⟨.string _, .string _, isPlain_textMap depth t.header, .string _, nofun⟩

theorem QueryTexts.isPlain_toJson (depth : Nat) (q : QueryTexts) : q.toJson.IsPlain (depth + 2) := by
  apply isPlain_ofFields
  simp only [List.forall_mem_cons]
  exact ⟨.string _, isPlain_textMap depth q.bindings, nofun⟩

theorem Crawl.isPlain_toJson (depth : Nat) (c : Crawl) : c.toJson.IsPlain (depth + 4) := by
  have hTarget : (Value.ofFields [("http", c.target.toJson)]).IsPlain (depth + 3) := by
    apply isPlain_ofFields
    simp only [List.forall_mem_cons]
    exact ⟨HttpTarget.isPlain_toJson depth c.target, nofun⟩
  apply isPlain_ofFields
  simp only [List.forall_mem_cons]
  exact ⟨.string _, .bool _, .string _, hTarget, QueryTexts.isPlain_toJson (depth + 1) c.query, .string _, nofun⟩

theorem Alerts.isPlain_toJson (depth : Nat) (a : Alerts) : a.toJson.IsPlain (depth + 3) := by
  apply isPlain_ofFields
  simp only [List.forall_mem_cons]
  refine ⟨.string _, ?_, ?_, nofun⟩
  · apply isPlain_ofFields
    simp only [List.forall_mem_cons]
    exact ⟨.string _, isPlain_textList depth a.telegram.chatIds, nofun⟩
  · apply isPlain_ofFields
    simp only [List.forall_mem_cons]
    exact ⟨isPlain_textList depth a.discord.webhookUrls, nofun⟩

theorem Log.isPlain_toJson (depth : Nat) (l : Log) : l.toJson.IsPlain (depth + 1) := by
  apply isPlain_ofFields
  simp only [List.forall_mem_cons]
  exact ⟨.string _, .string _, .bool _, nofun⟩

theorem isPlain_toJson (c : Config) : c.toJson.IsPlain Json.depthLimit := by
  have hCrawls : (Value.array (c.crawls.map Crawl.toJson)).IsPlain 126 := by
    apply Value.IsPlain.array
    intro v hv
    obtain ⟨crawl, -, rfl⟩ := List.mem_map.1 hv
    exact Crawl.isPlain_toJson 121 crawl
  apply isPlain_ofFields
  simp only [List.forall_mem_cons]
  exact ⟨Log.isPlain_toJson 125 c.log, hCrawls, Alerts.isPlain_toJson 123 c.alerts, nofun⟩

/-- Whatever the settings are, the document written of them is read back from its text, and the settings
from that document; so is every length of time from its own text. -/
theorem written_reads_back (c : Config) (h : ∀ crawl ∈ c.crawls, Pipeline.IsOrdered crawl) :
    Json.ofString c.toJson.render = .ok c.toJson ∧ ofJson c.toJson = .ok c ∧
      ∀ d : Duration, Duration.read? d.render.toList = some d :=
  ⟨Json.ofString_render (isPlain_toJson c), read_toJson c h, Duration.read?_render⟩

/-- Settings with the longest of all intervals and with texts that need backslashes. -/
def Sample.bookshop : Config where
  log := { format := .json, level := .debug, caller := true }
  crawls := [{
    name := "the \"new\" books\n"
    enabled := true
    interval := ⟨18446744073709551615999999999, by decide⟩
    target := {
      method := "POST"
      url := "https://books.example/search"
      header := [("Accept", "*/*"), ("X-Path", "C:\\books")]
      body := "\x01\t" }
    query := { check := ".price < 10", bindings := [("price", ".price"), ("title", ".title")] }
    message := "κ — 10 €" }]
  alerts := { kind := .discord, discord := { webhookUrls := ["https://hooks.example/1"] } }

theorem bookshop_reads_back :
    Json.ofString Sample.bookshop.toJson.render = .ok Sample.bookshop.toJson ∧
      ofJson Sample.bookshop.toJson = .ok Sample.bookshop ∧
      ∀ d : Duration, Duration.read? d.render.toList = some d := by
  apply written_reads_back Sample.bookshop
  intro crawl hMem
  obtain rfl := List.mem_singleton.1 hMem
  exact ⟨by decide, by decide⟩

end Lookout.Config
