import Tedious.Connecting.InstanceLookup

/-!
# Tedious.Connecting.BrowserResponse

What is found in a response of the SQL Server Browser that is put together of records
(`parseBrowserResponse`): the port of the first record that has the name and a `tcp` entry
(`parseBrowserResponse_response`).

The flag `getPort` survives from one record to the next. A record begins with the names of its
server and of its instance, so that the flag is set anew before an entry is reached.
-/

namespace Tedious

open Chunked

/-! ### Splitting at a pair of symbols -/

section Splitting

variable {c : UInt16}

theorem splitAtPair_cons {a : UInt16} (h : a ≠ c) (s : JsString) :
    splitAtPair c (a :: s) = prepend a (splitAtPair c s) := by
  cases s with
  | nil => rfl
  | cons b s => exact if_neg fun hpair => h hpair.1

/-- One symbol alone does not split. -/
theorem splitAtPair_single {b : UInt16} (h : b ≠ c) (s : JsString) :
    splitAtPair c (c :: b :: s) = prepend c (splitAtPair c (b :: s)) :=
  if_neg fun hpair => h hpair.2

theorem splitAtPair_pair (s : JsString) : splitAtPair c (c :: c :: s) = [] :: splitAtPair c s :=
  if_pos ⟨rfl, rfl⟩

theorem splitAtPair_append {part : JsString} (h : c ∉ part) (s : JsString) :
    splitAtPair c (part ++ s) = part.foldr prepend (splitAtPair c s) := by
  induction part with
  | nil => rfl
  | cons a part ih =>
    have ha : a ≠ c := fun ha => h (ha ▸ List.mem_cons_self)
    have hpart : c ∉ part := fun hmem => h (List.mem_cons_of_mem a hmem)
    rw [List.cons_append, splitAtPair_cons ha, ih hpart, List.foldr_cons]

theorem foldr_prepend (s part : JsString) (parts : List JsString) :
    s.foldr prepend (part :: parts) = (s ++ part) :: parts := by
  induction s with
  | nil => rfl
  | cons a s ih =>
    rw [List.foldr_cons, ih]
    rfl

/-- Parts that are joined by one symbol each. -/
theorem splitAtPair_joined {parts : List JsString} (h : ∀ part ∈ parts, part ≠ [] ∧ c ∉ part)
    (s : JsString) : splitAtPair c ([c].intercalate parts ++ s) =
      ([c].intercalate parts).foldr prepend (splitAtPair c s) := by
  induction parts with
  | nil => rfl
  | cons part parts ih =>
    obtain ⟨⟨-, hpart⟩, hparts⟩ := List.forall_mem_cons.1 h
    cases parts with
    | nil =>
      rw [List.intercalate_singleton]
      exact splitAtPair_append hpart s
    | cons part' parts =>
      have hrest := ih hparts
      obtain ⟨⟨hne, hpart'⟩, -⟩ := List.forall_mem_cons.1 hparts
      cases part' with
      | nil => exact absurd rfl hne
      | cons b part' =>
        -- The next part begins with another symbol than the one in front of it.
        have hb : b ≠ c := fun hb => hpart' (hb ▸ List.mem_cons_self)
        rw [List.intercalate_cons_cons_left, List.cons_append] at hrest
        rw [List.intercalate_cons_cons, List.intercalate_cons_cons_left, List.append_assoc,
          List.append_assoc, splitAtPair_append hpart, List.singleton_append, List.cons_append,
          splitAtPair_single hb, hrest]
        simp only [List.foldr_append, List.foldr_cons, List.foldr_nil]

/-- A text in front of a pair is a text of its own. -/
theorem splitAtPair_joined_cons {parts rest : List JsString} {s : JsString}
    (h : ∀ part ∈ parts, part ≠ [] ∧ c ∉ part) (hs : splitAtPair c s = [] :: rest) :
    splitAtPair c ([c].intercalate parts ++ s) = [c].intercalate parts :: rest := by
  rw [splitAtPair_joined h, hs, foldr_prepend, List.append_nil]

end Splitting

/-! ### Records -/

/-- A record of a response: the names of its server and of its instance, and further entries. -/
structure InstanceRecord where
  serverName : JsString
  instanceName : JsString
  entries : List (JsString × JsString)

namespace InstanceRecord

/-- The names and values, in turn. -/
def parts (record : InstanceRecord) : List JsString :=
  JsString.ofString "ServerName" :: record.serverName ::
    JsString.ofString "InstanceName" :: record.instanceName ::
      record.entries.flatMap fun entry => [entry.1, entry.2]

def text (record : InstanceRecord) : JsString := [0x3B].intercalate record.parts

/-- No name or value is empty or has a `;` in it, and the name of the instance is there once. -/
structure WellFormed (record : InstanceRecord) : Prop where
  parts : ∀ part ∈ record.parts, part ≠ [] ∧ 0x3B ∉ part
  once : ∀ entry ∈ record.entries, entry.1 ≠ JsString.ofString "InstanceName"

/-- The value of the `tcp` entry. -/
def tcp (record : InstanceRecord) : Option JsString :=
  (record.entries.find? fun entry => entry.1 = JsString.ofString "tcp").map Prod.snd

/-- The port of a record, if it has one. -/
def port (record : InstanceRecord) : Option (Option Int) := record.tcp.map parseDecimal

end InstanceRecord

/-- Records that are joined by `;;`, which may stand behind the last one too. -/
def response (records : List InstanceRecord) (trailing : Bool) : JsString :=
  [0x3B, 0x3B].intercalate (records.map InstanceRecord.text) ++
    if trailing then [0x3B, 0x3B] else []

section Scanning

variable (toUpperCase : JsString → JsString) (instanceName : JsString)

/-- A record has this name, whatever the case. -/
def InstanceRecord.Named (record : InstanceRecord) : Prop :=
  toUpperCase record.instanceName = toUpperCase instanceName

instance (record : InstanceRecord) : Decidable (record.Named toUpperCase instanceName) :=
  inferInstanceAs (Decidable (_ = _))

/-- The first record is split off, and what is left is searched like the other records. -/
theorem splitAtPair_response {record : InstanceRecord} (h : record.WellFormed)
    (records : List InstanceRecord) (trailing : Bool) :
    ∃ rest, splitAtPair 0x3B (response (record :: records) trailing) = record.text :: rest ∧
      ∀ getPort, scanInstances toUpperCase instanceName getPort rest =
        scanInstances toUpperCase instanceName getPort
          (splitAtPair 0x3B (response records trailing)) := by
  cases records with
  | nil =>
    rw [response, List.map_singleton, List.intercalate_singleton]
    cases trailing with
    | false => exact ⟨[], splitAtPair_joined_cons h.parts rfl, fun _ => rfl⟩
    | true => exact ⟨[[]], splitAtPair_joined_cons h.parts rfl, fun _ => rfl⟩
  | cons record' records =>
    have hresponse : response (record :: record' :: records) trailing =
        record.text ++ (0x3B :: 0x3B :: response (record' :: records) trailing) := by
      rw [response, response, List.map_cons, List.map_cons, List.intercalate_cons_cons,
        ← List.map_cons, List.append_assoc, List.append_assoc]
      rfl
    rw [hresponse]
    exact ⟨_, splitAtPair_joined_cons h.parts (splitAtPair_pair _), fun _ => rfl⟩

variable {toUpperCase instanceName}

theorem scanParts_false {entries : List (JsString × JsString)}
    (h : ∀ entry ∈ entries, entry.1 ≠ JsString.ofString "InstanceName") :
    scanParts toUpperCase instanceName false (entries.flatMap fun entry => [entry.1, entry.2]) =
      .ok (.passed false) := by
  induction entries with
  | nil => rfl
  | cons entry entries ih =>
    obtain ⟨hname, hentries⟩ := List.forall_mem_cons.1 h
    show scanParts toUpperCase instanceName false (entry.1 :: entry.2 :: _) = _
    rw [scanParts, if_neg (fun hport => Bool.false_ne_true hport.2), if_neg hname]
    exact ih hentries

/-- With the flag set, the first `tcp` entry is returned. -/
theorem scanParts_true {entries : List (JsString × JsString)}
    (h : ∀ entry ∈ entries, entry.1 ≠ JsString.ofString "InstanceName") :
    scanParts toUpperCase instanceName true (entries.flatMap fun entry => [entry.1, entry.2]) =
      .ok (match entries.find? fun entry => entry.1 = JsString.ofString "tcp" with
        | some entry => .port (parseDecimal entry.2)
        | none => .passed true) := by
  induction entries with
  | nil => rfl
  | cons entry entries ih =>
    obtain ⟨hname, hentries⟩ := List.forall_mem_cons.1 h
    show scanParts toUpperCase instanceName true (entry.1 :: entry.2 :: _) = _
    rw [scanParts, List.find?_cons]
    by_cases htcp : entry.1 = JsString.ofString "tcp"
    · rw [if_pos ⟨htcp, rfl⟩, decide_eq_true htcp]
    · rw [if_neg (fun hport => htcp hport.1), if_neg hname, decide_eq_false htcp]
      exact ih hentries

/-- **One record**: its own name decides, whatever the flag was. -/
theorem scanParts_record {record : InstanceRecord} (h : record.WellFormed) (getPort : Bool) :
    scanParts toUpperCase instanceName getPort record.parts =
      .ok (if record.Named toUpperCase instanceName then
        match record.port with
        | some n => .port n
        | none => .passed true
      else .passed false) := by
  have hserver : JsString.ofString "ServerName" ≠ JsString.ofString "tcp" := by decide
  have hserver' : JsString.ofString "ServerName" ≠ JsString.ofString "InstanceName" := by decide
  have hinstance : JsString.ofString "InstanceName" ≠ JsString.ofString "tcp" := by decide
  rw [InstanceRecord.parts, scanParts, if_neg (fun hport => hserver hport.1), if_neg hserver',
    scanParts, if_neg (fun hport => hinstance hport.1), if_pos rfl]
  by_cases hnamed : record.Named toUpperCase instanceName
  · have hflag : decide (toUpperCase record.instanceName = toUpperCase instanceName) = true :=
      decide_eq_true hnamed
    rw [hflag, scanParts_true h.once, if_pos hnamed, InstanceRecord.port, InstanceRecord.tcp]
    cases record.entries.find? fun entry => entry.1 = JsString.ofString "tcp" <;> rfl
  · have hflag : decide (toUpperCase record.instanceName = toUpperCase instanceName) = false :=
      decide_eq_false hnamed
    rw [hflag, scanParts_false h.once, if_neg hnamed]

theorem splitOn_text {record : InstanceRecord} (h : record.WellFormed) :
    record.text.splitOn 0x3B = record.parts := by
  refine List.splitOn_intercalate 0x3B (fun part hpart => (h.parts part hpart).2) ?_
  rw [InstanceRecord.parts]
  exact List.cons_ne_nil _ _

/-- **The loop over the records**, whatever the flag is before it. -/
theorem scanInstances_response {records : List InstanceRecord}
    (h : ∀ record ∈ records, record.WellFormed) (trailing getPort : Bool) :
    scanInstances toUpperCase instanceName getPort
        (splitAtPair 0x3B (response records trailing)) =
      .ok ((records.find? fun record =>
        record.Named toUpperCase instanceName ∧ record.tcp.isSome).bind InstanceRecord.port) := by
  induction records generalizing getPort with
  | nil => cases trailing <;> rfl
  | cons record records ih =>
    obtain ⟨hrecord, hrecords⟩ := List.forall_mem_cons.1 h
    obtain ⟨rest, hsplit, hrest⟩ :=
      splitAtPair_response toUpperCase instanceName hrecord records trailing
    have hfound : ∀ getPort, scanInstances toUpperCase instanceName getPort rest =
        .ok ((records.find? fun record =>
          record.Named toUpperCase instanceName ∧ record.tcp.isSome).bind InstanceRecord.port) :=
      fun getPort => (hrest getPort).trans (ih hrecords getPort)
    rw [hsplit, scanInstances, splitOn_text hrecord, scanParts_record hrecord, List.find?_cons]
    by_cases hnamed : record.Named toUpperCase instanceName
    · rw [if_pos hnamed]
      cases htcp : record.tcp with
      | none =>
        have hport : record.port = none := congrArg (Option.map parseDecimal) htcp
        simp only [hport, hnamed]
        exact hfound true
      | some value =>
        have hport : record.port = some (parseDecimal value) :=
          congrArg (Option.map parseDecimal) htcp
        simp only [hport, hnamed]
        exact congrArg Except.ok hport.symm
    · rw [if_neg hnamed]
      simp only [hnamed, false_and, decide_false]
      exact hfound false

end Scanning

/-- **Searching a response**: the port of the first record that has the name, whatever the case, and
a `tcp` entry; `undefined` without one. -/
theorem parseBrowserResponse_response (toUpperCase : JsString → JsString) (instanceName : JsString)
    {records : List InstanceRecord} (h : ∀ record ∈ records, record.WellFormed) (trailing : Bool) :
    parseBrowserResponse toUpperCase instanceName (response records trailing) =
      .ok ((records.find? fun record =>
        record.Named toUpperCase instanceName ∧ record.tcp.isSome).bind InstanceRecord.port) :=
  scanInstances_response h trailing false

/-- `toUpperCase` of letters from `a` to `z`. -/
def upperLetters : JsString → JsString :=
  List.map fun c => if 0x61 ≤ c ∧ c ≤ 0x7A then c - 0x20 else c

/-- The instance `B` is there twice, the second time with a `tcp` entry. -/
def threeInstances : List InstanceRecord :=
  [⟨JsString.ofString "s", JsString.ofString "B",
      [(JsString.ofString "np", JsString.ofString "tcp")]⟩,
    ⟨JsString.ofString "s", JsString.ofString "A",
      [(JsString.ofString "tcp", JsString.ofString "1")]⟩,
    ⟨JsString.ofString "tcp", JsString.ofString "B",
      [(JsString.ofString "x", JsString.ofString "InstanceName"),
        (JsString.ofString "tcp", JsString.ofString "1433")]⟩]

theorem parseBrowserResponse_third :
    parseBrowserResponse upperLetters (JsString.ofString "b") (response threeInstances true) =
      .ok (some (some 1433)) := by
  have hrecords : ∀ record ∈ threeInstances, record.WellFormed := by
    simp only [threeInstances, List.forall_mem_cons]
    exact ⟨⟨by decide, by decide⟩, ⟨by decide, by decide⟩, ⟨by decide, by decide⟩, nofun⟩
  refine (parseBrowserResponse_response upperLetters _ hrecords true).trans ?_
  decide

end Tedious
