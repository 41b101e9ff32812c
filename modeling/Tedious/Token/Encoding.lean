import Tedious.Encode
import Tedious.Token.Chunking

/-!
# Tedious.Token.Encoding

The tokens whose content has a length in front, the way a server writes them. A
`WireToken` holds the field values of a token, `WireToken.encode` its bytes behind the
type byte, and `WireToken.token` what a client is to make of it.

`WireToken.reads` is the point: each parser reads exactly the encoding of its token. Once
all of the content is there no parser looks at the declared length again; that they stop
where it ends is the sum of the lengths of the fields.
-/

namespace Tedious

open Chunked

/-! ### Decimal text -/

/-- The text of decimal digits. -/
def decimalText (digits : List (Fin 10)) : JsString :=
  digits.map fun d => UInt16.ofNat (0x30 + d.val)

/-- The number that decimal digits denote. -/
def decimalValue (digits : List (Fin 10)) : Nat := digits.foldl (fun n d => 10 * n + d.val) 0

/-- The number of a text of digits; without any, it is not a number. -/
def decimalNumber (digits : List (Fin 10)) : Option Int :=
  if digits = [] then none else some (toNumber (decimalValue digits))

theorem digit_properties : ∀ d : Fin 10,
    isStrWhiteSpace (UInt16.ofNat (0x30 + d.val)) = false ∧
      digitValue (UInt16.ofNat (0x30 + d.val)) = some d.val ∧ UInt16.ofNat (0x30 + d.val) ≠ 0x2D ∧
      UInt16.ofNat (0x30 + d.val) ≠ 0x2B ∧ UInt16.ofNat (0x30 + d.val) ≠ 0x78 ∧
      UInt16.ofNat (0x30 + d.val) ≠ 0x58 := by
  decide

theorem leadingDigits_decimalText (digits : List (Fin 10)) :
    leadingDigits 10 (decimalText digits) = digits.map Fin.val := by
  induction digits with
  | nil => rfl
  | cons d digits ih =>
    have hd := (digit_properties d).2.1
    rw [decimalText, List.map_cons, leadingDigits, hd, List.map_cons, ← ih]
    exact if_pos d.isLt

/-- `parseInt` of a text of digits. -/
theorem parseInt_decimalText (digits : List (Fin 10)) :
    parseInt (decimalText digits) = decimalNumber digits := by
  cases digits with
  | nil => rfl
  | cons d digits =>
    obtain ⟨hspace, -, hminus, hplus, -, -⟩ := digit_properties d
    have htrim : (decimalText (d :: digits)).dropWhile isStrWhiteSpace =
        decimalText (d :: digits) := List.dropWhile_cons_of_neg (by rw [hspace]; decide)
    have hsign : stripSign (decimalText (d :: digits)) = (1, decimalText (d :: digits)) := by
      rw [decimalText, List.map_cons, stripSign]
      · exact fun s h => hminus (List.cons.inj h).1
      · exact fun s h => hplus (List.cons.inj h).1
    have hradix : stripRadix (decimalText (d :: digits)) = (10, decimalText (d :: digits)) := by
      cases digits with
      | nil =>
        rw [decimalText, List.map_singleton, stripRadix]
        · exact fun s h => List.cons_ne_nil _ _ (List.cons.inj h).2.symm
        · exact fun s h => List.cons_ne_nil _ _ (List.cons.inj h).2.symm
      | cons d' digits =>
        obtain ⟨-, -, -, -, hlower, hupper⟩ := digit_properties d'
        rw [decimalText, List.map_cons, List.map_cons, stripRadix]
        · exact fun s h => hlower (List.cons.inj (List.cons.inj h).2).1
        · exact fun s h => hupper (List.cons.inj (List.cons.inj h).2).1
    rw [parseInt, htrim, hsign]
    dsimp only
    rw [hradix]
    dsimp only
    rw [leadingDigits_decimalText, List.map_cons]
    dsimp only
    rw [← List.map_cons, List.foldl_map, decimalNumber, if_neg (List.cons_ne_nil d digits), one_mul,
      decimalValue]

/-! ### Environment changes -/

/-- The field values of an `ENVCHANGE`, as the new and the old value. -/
inductive WireChange
  | database (newValue oldValue : JsString)
  | language (newValue oldValue : JsString)
  | charset (newValue oldValue : JsString)
  /-- The sizes as decimal digits. -/
  | packetSize (newValue oldValue : List (Fin 10))
  | sqlCollation (newValue oldValue : Option Collation)
  | beginTransaction (newValue oldValue : Bytes)
  | commitTransaction (newValue oldValue : Bytes)
  | rollbackTransaction (newValue oldValue : Bytes)
  | databaseMirroringPartner (newValue oldValue : JsString)
  | resetConnection (newValue oldValue : Bytes)
  | routing (port : Nat) (server : JsString) (oldValue : Bytes)

namespace WireChange

/-- The number of a change type. -/
def typeNumber : WireChange → Nat
  | database .. => 1
  | language .. => 2
  | charset .. => 3
  | packetSize .. => 4
  | sqlCollation .. => 7
  | beginTransaction .. => 8
  | commitTransaction .. => 9
  | rollbackTransaction .. => 10
  | databaseMirroringPartner .. => 13
  | resetConnection .. => 18
  | routing .. => 20

/-- The bytes of a collation, if there is one. -/
def collationBytes (c : Option Collation) : Bytes := (c.map Collation.toBuffer).getD []

/-- The route that a server redirects to. -/
def routePacket (port : Nat) (server : JsString) : Bytes :=
  leBytes 1 0 ++ leBytes 2 port ++ leBytes 2 server.length ++ ucs2Bytes server

/-- The new and the old value. -/
def values : WireChange → Bytes
  | database newValue oldValue | language newValue oldValue | charset newValue oldValue
  | databaseMirroringPartner newValue oldValue => bVarChar newValue ++ bVarChar oldValue
  | packetSize newValue oldValue =>
    bVarChar (decimalText newValue) ++ bVarChar (decimalText oldValue)
  | sqlCollation newValue oldValue =>
    bVarByte (collationBytes newValue) ++ bVarByte (collationBytes oldValue)
  | beginTransaction newValue oldValue | commitTransaction newValue oldValue
  | rollbackTransaction newValue oldValue | resetConnection newValue oldValue =>
    bVarByte newValue ++ bVarByte oldValue
  | routing port server oldValue => usVarByte (routePacket port server) ++ usVarByte oldValue

/-- The values have the size of their fields. -/
def Fits : WireChange → Prop
  | database newValue oldValue | language newValue oldValue | charset newValue oldValue
  | databaseMirroringPartner newValue oldValue => newValue.length < 256 ∧ oldValue.length < 256
  | packetSize newValue oldValue => newValue.length < 256 ∧ oldValue.length < 256
  | sqlCollation newValue oldValue => (∀ c ∈ newValue, c.Fits) ∧ ∀ c ∈ oldValue, c.Fits
  | beginTransaction newValue oldValue | commitTransaction newValue oldValue
  | rollbackTransaction newValue oldValue | resetConnection newValue oldValue =>
    newValue.length < 256 ∧ oldValue.length < 256
  | routing port server oldValue =>
    port < 65536 ∧ (routePacket port server).length < 65536 ∧ oldValue.length < 65536

/-- What a client is told. -/
def change : WireChange → EnvChange
  | database newValue oldValue => .database newValue oldValue
  | language newValue oldValue => .language newValue oldValue
  | charset newValue oldValue => .charset newValue oldValue
  | packetSize newValue oldValue =>
    .packetSize (decimalNumber newValue) (decimalNumber oldValue)
  | sqlCollation newValue oldValue => .sqlCollation newValue oldValue
  | beginTransaction newValue oldValue => .beginTransaction newValue oldValue
  | commitTransaction newValue oldValue => .commitTransaction newValue oldValue
  | rollbackTransaction newValue oldValue => .rollbackTransaction newValue oldValue
  | databaseMirroringPartner newValue oldValue => .databaseMirroringPartner newValue oldValue
  | resetConnection newValue oldValue => .resetConnection newValue oldValue
  | routing port server oldValue => .routing 0 port server oldValue

/-- The type and the values. -/
def content (c : WireChange) : Bytes := leBytes 1 c.typeNumber ++ c.values

end WireChange

theorem readStringChange_reads (change : JsString → JsString → EnvChange)
    {newValue oldValue : JsString} (hnew : newValue.length < 256) (hold : oldValue.length < 256) :
    Reads (readStringChange change) (bVarChar newValue ++ bVarChar oldValue)
      (some (change newValue oldValue)) :=
  (readBVarChar_reads hnew).bind ((readBVarChar_reads hold).map fun old =>
    some (change newValue old))

theorem readBufferChange_reads (change : Bytes → Bytes → EnvChange)
    {newValue oldValue : Bytes} (hnew : newValue.length < 256) (hold : oldValue.length < 256) :
    Reads (readBufferChange change) (bVarByte newValue ++ bVarByte oldValue)
      (some (change newValue oldValue)) :=
  (readBVarByte_reads hnew).bind ((readBVarByte_reads hold).map fun old =>
    some (change newValue old))

theorem length_collationBytes (c : Option Collation) :
    (WireChange.collationBytes c).length < 256 := by
  cases c <;> simp [WireChange.collationBytes]

theorem collationOf_collationBytes {c : Option Collation} (h : ∀ c' ∈ c, c'.Fits) :
    collationOf (WireChange.collationBytes c) = c := by
  cases c with
  | none => rfl
  | some c =>
    show (if c.toBuffer.length ≠ 0 then _ else _) = _
    rw [Collation.length_toBuffer, if_pos (by decide)]
    exact congrArg some (Collation.fromBuffer_toBuffer (h c rfl))

/-- An integer inside a buffer. -/
theorem bufferUInt_append {k n : Nat} (hn : n < 256 ^ k) (pre rest : Bytes) :
    bufferUInt (pre ++ leBytes k n ++ rest) pre.length k = .ok n := by
  have hroom : pre.length + k ≤ (pre ++ leBytes k n ++ rest).length := by
    simp only [List.length_append, length_leBytes]
    omega
  rw [bufferUInt, if_pos hroom, List.append_assoc, List.drop_left]
  have htake : (leBytes k n ++ rest).take k = leBytes k n := List.take_left' (length_leBytes k n)
  rw [htake, leNat_leBytes hn]

theorem parseRoutePacket_routePacket {port : Nat} (hport : port < 65536) {server : JsString}
    (hserver : server.length < 65536) :
    parseRoutePacket (WireChange.routePacket port server) = .ok (0, port, server) := by
  have hprotocol := bufferUInt_append (k := 1) (n := 0) (by decide) []
    (leBytes 2 port ++ leBytes 2 server.length ++ ucs2Bytes server)
  have hport' := bufferUInt_append (k := 2) hport (leBytes 1 0)
    (leBytes 2 server.length ++ ucs2Bytes server)
  have hlength := bufferUInt_append (k := 2) hserver (leBytes 1 0 ++ leBytes 2 port)
    (ucs2Bytes server)
  have htext : toUcs2 (WireChange.routePacket port server) 5 (5 + (server.length : Nat) * 2) =
      server := by
    have hwindow := toUcs2_windowed (leBytes 1 0 ++ leBytes 2 port ++ leBytes 2 server.length)
      (ucs2Bytes server) [] 0 (ucs2Bytes server).length (Nat.zero_le _) le_rfl
    simp only [List.append_nil, List.length_append, length_leBytes, length_ucs2Bytes] at hwindow
    rw [Nat.mul_comm] at hwindow
    refine Eq.trans ?_ (hwindow.trans ?_)
    · rw [WireChange.routePacket]
      push_cast
      rfl
    · rw [toUcs2]
      simp only [Int.toNat_natCast, Nat.mul_comm server.length 2]
      rw [← length_ucs2Bytes, List.take_length]
      exact ucs2_ucs2Bytes server
  simp only [List.nil_append, List.append_assoc, List.length_append, length_leBytes,
    List.length_nil] at hprotocol hport' hlength
  rw [parseRoutePacket, WireChange.routePacket] at *
  simp only [List.append_assoc] at htext ⊢
  rw [hprotocol]
  simp only [bind, Except.bind, ne_eq, not_true_eq_false, if_false, hport', hlength]
  exact congrArg (fun s => Except.ok (0, port, s)) htext

theorem Reader.ofExcept_reads {x : Except JsError α} {v : α} (h : x = .ok v) :
    Reads (Reader.ofExcept x) [] v := by
  subst h
  exact .pure v

theorem readRoutingChange_reads {port : Nat} {server : JsString} {oldValue : Bytes}
    (hport : port < 65536) (hroute : (WireChange.routePacket port server).length < 65536)
    (hold : oldValue.length < 65536) :
    Reads readRoutingChange (usVarByte (WireChange.routePacket port server) ++ usVarByte oldValue)
      (some (.routing 0 port server oldValue)) := by
  have hserver : server.length < 65536 := by
    simp only [WireChange.routePacket, List.length_append, length_leBytes,
      length_ucs2Bytes] at hroute
    omega
  have hparsed := Reader.ofExcept_reads (parseRoutePacket_routePacket hport hserver)
  have hold' : Reads (readUsVarByte >>= fun oldValue => do
      let p ← Reader.ofExcept (parseRoutePacket (WireChange.routePacket port server))
      pure (some (EnvChange.routing p.1 p.2.1 p.2.2 oldValue)))
      (usVarByte oldValue ++ []) (some (.routing 0 port server oldValue)) :=
    (readUsVarByte_reads hold).bind (hparsed.map fun p =>
      some (EnvChange.routing p.1 p.2.1 p.2.2 oldValue))
  rw [List.append_nil] at hold'
  exact (readUsVarByte_reads hroute).bind hold'

/-- Every decoded type is read to the end of its values. -/
theorem readNewAndOldValue_reads {c : WireChange} (h : c.Fits) :
    ∃ type, EnvChangeType.ofNumber c.typeNumber = some type ∧
      ∀ length, Reads (readNewAndOldValue length type) c.values (some c.change) := by
  have hdecimal : ∀ digits : List (Fin 10),
      (decimalText digits).length = digits.length := fun digits => List.length_map ..
  cases c with
  | database newValue oldValue => exact ⟨_, rfl, fun _ => readStringChange_reads _ h.1 h.2⟩
  | language newValue oldValue => exact ⟨_, rfl, fun _ => readStringChange_reads _ h.1 h.2⟩
  | charset newValue oldValue => exact ⟨_, rfl, fun _ => readStringChange_reads _ h.1 h.2⟩
  | databaseMirroringPartner newValue oldValue =>
    exact ⟨_, rfl, fun _ => readStringChange_reads _ h.1 h.2⟩
  | packetSize newValue oldValue =>
    refine ⟨_, rfl, fun _ => ?_⟩
    have hnew : (decimalText newValue).length < 256 := (hdecimal newValue).trans_lt h.1
    have hold : (decimalText oldValue).length < 256 := (hdecimal oldValue).trans_lt h.2
    have hreads := readStringChange_reads
      (fun new old => .packetSize (parseInt new) (parseInt old)) hnew hold
    rwa [parseInt_decimalText, parseInt_decimalText] at hreads
  | sqlCollation newValue oldValue =>
    refine ⟨_, rfl, fun _ => ?_⟩
    have hreads := readBufferChange_reads
      (fun new old => .sqlCollation (collationOf new) (collationOf old))
      (length_collationBytes newValue) (length_collationBytes oldValue)
    rwa [collationOf_collationBytes h.1, collationOf_collationBytes h.2] at hreads
  | beginTransaction newValue oldValue =>
    exact ⟨_, rfl, fun _ => readBufferChange_reads _ h.1 h.2⟩
  | commitTransaction newValue oldValue =>
    exact ⟨_, rfl, fun _ => readBufferChange_reads _ h.1 h.2⟩
  | rollbackTransaction newValue oldValue =>
    exact ⟨_, rfl, fun _ => readBufferChange_reads _ h.1 h.2⟩
  | resetConnection newValue oldValue =>
    exact ⟨_, rfl, fun _ => readBufferChange_reads _ h.1 h.2⟩
  | routing port server oldValue =>
    exact ⟨_, rfl, fun _ => readRoutingChange_reads h.1 h.2.1 h.2.2⟩

theorem WireChange.typeNumber_lt (c : WireChange) : c.typeNumber < 256 := by
  cases c <;> simp only [typeNumber] <;> decide

theorem envChangeParser_reads {c : WireChange} (h : c.Fits) (hlength : c.content.length < 65536) :
    Reads envChangeParser (usVarByte c.content) (some c.change) := by
  obtain ⟨type, htype, hvalues⟩ := readNewAndOldValue_reads h
  refine (readUInt16LE_reads hlength).bind (Reads.ensure_bind rfl ?_)
  refine (readUInt8_reads c.typeNumber_lt).returns.bind ?_
  rw [htype]
  exact (hvalues c.content.length).returns

/-! ### Feature acknowledgements -/

/-- The acknowledgement of a feature: its number and its data. -/
structure WireFeature where
  id : Nat
  data : Bytes

namespace WireFeature

def encode (f : WireFeature) : Bytes := leBytes 1 f.id ++ (leBytes 4 f.data.length ++ f.data)

/-- The terminator is not a feature. -/
structure Fits (f : WireFeature) : Prop where
  id : f.id < 255
  data : f.data.length < 4294967296

/-- The acknowledgements that a feature adds to the ones before it. -/
def acknowledge (acks : FeatureAcks) (f : WireFeature) : FeatureAcks :=
  if f.id = FeatureId.FEDAUTH then (some f.data, acks.2)
  else if f.id = FeatureId.UTF8_SUPPORT then (acks.1, some (Collation.byteAt f.data 0 ≠ 0))
  else acks

end WireFeature

theorem readFeatureAck_progress : Progress readFeatureAck :=
  Reader.progress (by decide) readFeatureData_steady

theorem readFeatureAck_reads {f : WireFeature} (h : f.Fits) (acks : FeatureAcks) :
    Reads (readFeatureAck acks) f.encode (.inl (f.acknowledge acks)) := by
  have hid := h.id
  have hne : f.id ≠ FeatureId.TERMINATOR := by
    rw [FeatureId.TERMINATOR]
    omega
  refine (readUInt8_reads (by omega)).bind ?_
  rw [readFeatureData, if_neg hne]
  exact (readUInt32LE_reads h.data).bind ((readSlice_reads f.data).map _)

/-- The features in their order, up to the terminator. -/
theorem featureExtAckLoop_reads {features : List WireFeature} (h : ∀ f ∈ features, f.Fits)
    (acks : FeatureAcks) :
    Reads (OffsetReader.loop readFeatureAck acks)
      (features.flatMap WireFeature.encode ++ leBytes 1 FeatureId.TERMINATOR)
      (features.foldl WireFeature.acknowledge acks) := by
  induction features generalizing acks with
  | nil =>
    have hterminator : Reads (readFeatureAck acks) (leBytes 1 FeatureId.TERMINATOR) (.inr acks) := by
      refine (readUInt8_reads (by decide)).bind_nil ?_
      rw [readFeatureData, if_pos rfl]
      exact .pure _
    exact .loop_exit readFeatureAck_progress hterminator
  | cons f features ih =>
    rw [List.flatMap_cons, List.append_assoc]
    exact .loop_next readFeatureAck_progress (readFeatureAck_reads (h f (List.mem_cons_self ..)) acks)
      (ih (fun f' hf' => h f' (List.mem_cons_of_mem _ hf')) _)

/-! ### Federated authentication -/

/-- An entry of the table of a `FEDAUTHINFO`: which text it is and where it stands. -/
structure WireInfo where
  id : Nat
  offset : Nat
  text : JsString

/-- A `FEDAUTHINFO`: its table, and the bytes behind the table. -/
structure WireFedAuthInfo where
  infos : List WireInfo
  texts : Bytes

namespace WireFedAuthInfo

def entry (info : WireInfo) : Bytes :=
  leBytes 1 info.id ++ leBytes 4 (2 * info.text.length) ++ leBytes 4 info.offset

def content (t : WireFedAuthInfo) : Bytes :=
  leBytes 4 t.infos.length ++ (t.infos.flatMap entry ++ t.texts)

/-- Every text stands where the table says, from the beginning of the content on. -/
structure Fits (t : WireFedAuthInfo) : Prop where
  length : t.content.length < 4294967296
  ids : ∀ info ∈ t.infos, info.id < 256
  offsets : ∀ info ∈ t.infos, info.offset < 4294967296
  placed : ∀ info ∈ t.infos,
    (t.content.drop info.offset).take (2 * info.text.length) = ucs2Bytes info.text

/-- The last text of a kind. -/
def lastText (id : Nat) : List WireInfo → Option JsString
  | [] => none
  | info :: infos => (lastText id infos).or (if info.id = id then some info.text else none)

end WireFedAuthInfo

theorem toUcs2_of_placed {data : Bytes} {offset : Nat} {text : JsString}
    (h : (data.drop offset).take (2 * text.length) = ucs2Bytes text) :
    toUcs2 data offset (offset + (2 * text.length : Nat)) = text := by
  rw [toUcs2, ← Nat.cast_add, Int.toNat_natCast, Int.toNat_natCast, List.drop_take,
    Nat.add_sub_cancel_left, h]
  exact ucs2_ucs2Bytes text

open WireFedAuthInfo in
/-- The entries of the table, one by one. -/
theorem readFedAuthInfoEntries_eq (pre : Bytes) {texts : Bytes} {infos : List WireInfo}
    (hids : ∀ info ∈ infos, info.id < 256) (hoffsets : ∀ info ∈ infos, info.offset < 4294967296)
    (hlengths : ∀ info ∈ infos, 2 * info.text.length < 4294967296)
    (hplaced : ∀ info ∈ infos, ((pre ++ (infos.flatMap entry ++ texts)).drop info.offset).take
      (2 * info.text.length) = ucs2Bytes info.text) (spn stsurl : Option JsString) :
    readFedAuthInfoEntries (pre ++ (infos.flatMap entry ++ texts)) infos.length pre.length spn
        stsurl = .ok ((lastText 0x02 infos).or spn, (lastText 0x01 infos).or stsurl) := by
  induction infos generalizing pre spn stsurl with
  | nil => rfl
  | cons info infos ih =>
    have hmem := List.mem_cons_self (a := info) (l := infos)
    have hid := bufferUInt_append (k := 1) (hids info hmem) pre
      (leBytes 4 (2 * info.text.length) ++ leBytes 4 info.offset ++
        (infos.flatMap entry ++ texts))
    have hlength := bufferUInt_append (k := 4) (hlengths info hmem) (pre ++ leBytes 1 info.id)
      (leBytes 4 info.offset ++ (infos.flatMap entry ++ texts))
    have hoffset := bufferUInt_append (k := 4) (hoffsets info hmem)
      (pre ++ leBytes 1 info.id ++ leBytes 4 (2 * info.text.length))
      (infos.flatMap entry ++ texts)
    have hbytes : pre ++ ((info :: infos).flatMap entry ++ texts) =
        (pre ++ entry info) ++ (infos.flatMap entry ++ texts) := by
      rw [List.flatMap_cons, List.append_assoc, List.append_assoc]
    have htext := toUcs2_of_placed (hplaced info hmem)
    have hrest := ih (pre ++ entry info)
      (fun i hi => hids i (List.mem_cons_of_mem _ hi))
      (fun i hi => hoffsets i (List.mem_cons_of_mem _ hi))
      (fun i hi => hlengths i (List.mem_cons_of_mem _ hi))
      (fun i hi => by rw [← hbytes]; exact hplaced i (List.mem_cons_of_mem _ hi))
    rw [← hbytes] at hrest
    have hend : (pre ++ entry info).length = pre.length + 9 := by
      simp [entry]
    rw [hend] at hrest
    generalize hdata : pre ++ ((info :: infos).flatMap entry ++ texts) = data at htext hrest ⊢
    have hdata' : data = pre ++ leBytes 1 info.id ++ (leBytes 4 (2 * info.text.length) ++
        leBytes 4 info.offset ++ (infos.flatMap entry ++ texts)) := by
      rw [← hdata, List.flatMap_cons, entry]
      simp only [List.append_assoc]
    rw [← hdata'] at hid
    have hdata'' : data = pre ++ leBytes 1 info.id ++ leBytes 4 (2 * info.text.length) ++
        (leBytes 4 info.offset ++ (infos.flatMap entry ++ texts)) := by
      rw [hdata']
      simp only [List.append_assoc]
    rw [← hdata''] at hlength
    rw [List.append_assoc _ (leBytes 4 info.offset), ← hdata''] at hoffset
    simp only [List.length_append, length_leBytes] at hlength hoffset
    rw [List.length_cons, readFedAuthInfoEntries, hid]
    simp only [bind, Except.bind, hlength, hoffset, htext]
    rw [lastText, lastText]
    split
    · next h2 => simp [hrest, h2]
    · next h1 => simp [hrest, h1]
    · next h2 h1 =>
      have hne2 : ¬info.id = 2 := fun h => h2 h
      have hne1 : ¬info.id = 1 := fun h => h1 h
      simp [hrest, hne1, hne2]

open WireFedAuthInfo in
theorem readFedAuthInfo_content {t : WireFedAuthInfo} (h : t.Fits) :
    readFedAuthInfo t.content =
      .ok (lastText 0x02 t.infos, lastText 0x01 t.infos) := by
  have hlength := h.length
  have hentries : t.infos.length ≤ (t.infos.flatMap entry).length := by
    induction t.infos with
    | nil => exact le_rfl
    | cons info infos ih =>
      rw [List.flatMap_cons, List.length_append, List.length_cons, entry, List.length_append,
        length_leBytes]
      omega
  have hcount : t.infos.length < 4294967296 := by
    rw [content, List.length_append, List.length_append] at hlength
    omega
  have htexts : ∀ info ∈ t.infos, 2 * info.text.length < 4294967296 := by
    intro info hinfo
    have hplaced := congrArg List.length (h.placed info hinfo)
    rw [length_ucs2Bytes, List.length_take, List.length_drop] at hplaced
    omega
  have hread := bufferUInt_append (k := 4) hcount [] (t.infos.flatMap entry ++ t.texts)
  have hrest := readFedAuthInfoEntries_eq (leBytes 4 t.infos.length) h.ids h.offsets htexts
    h.placed none none
  rw [length_leBytes, Option.or_none, Option.or_none] at hrest
  rw [readFedAuthInfo, content]
  rw [List.nil_append] at hread
  rw [List.length_nil] at hread
  rw [hread]
  exact hrest

theorem fedAuthInfoParser_reads {t : WireFedAuthInfo} (h : t.Fits) :
    Reads fedAuthInfoParser (leBytes 4 t.content.length ++ t.content)
      (.fedAuthInfo (WireFedAuthInfo.lastText 0x02 t.infos)
        (WireFedAuthInfo.lastText 0x01 t.infos)) := by
  have hparsed := (Reader.ofExcept_reads (readFedAuthInfo_content h)).map fun p =>
    Token.fedAuthInfo p.1 p.2
  have hslice := (readSlice_reads t.content).bind
    (f := fun data => Reader.ofExcept (readFedAuthInfo data) >>= fun p =>
      pure (Token.fedAuthInfo p.1 p.2)) hparsed
  rw [List.append_nil] at hslice
  exact (readUInt32LE_reads h.length).bind hslice

/-! ### Messages -/

namespace MessageData

def content (options : ParserOptions) (m : MessageData) : Bytes :=
  leBytes 4 m.number ++ (leBytes 1 m.state ++ (leBytes 1 m.class' ++ (usVarChar m.message ++
    (bVarChar m.serverName ++ (bVarChar m.procName ++
      leBytes options.width m.lineNumber)))))

structure Fits (options : ParserOptions) (m : MessageData) : Prop where
  number : m.number < 4294967296
  state : m.state < 256
  class' : m.class' < 256
  message : m.message.length < 65536
  serverName : m.serverName.length < 256
  procName : m.procName.length < 256
  lineNumber : m.lineNumber < 256 ^ options.width
  length : (m.content options).length < 65536

end MessageData

theorem readMessageData_reads {options : ParserOptions} {m : MessageData} (h : m.Fits options) :
    Reads (readMessageData options) (usVarByte (m.content options)) m := by
  refine (readUInt16LE_reads h.length).bind (Reads.ensure_bind rfl ?_)
  refine (readUInt32LE_reads h.number).returns.bind ?_
  refine (readUInt8_reads h.state).returns.bind ?_
  refine (readUInt8_reads h.class').returns.bind ?_
  refine (readUsVarChar_reads h.message).returns.bind ?_
  refine (readBVarChar_reads h.serverName).returns.bind ?_
  refine (readBVarChar_reads h.procName).returns.bind ?_
  exact (ParserOptions.select_reads h.lineNumber).returns.map fun lineNumber => { m with lineNumber }

/-! ### Login acknowledgements -/

/-- The field values of a `LOGINACK`. -/
structure WireLoginAck where
  interfaceNumber : Nat
  tdsVersionNumber : Nat
  progName : JsString
  major : Nat
  minor : Nat
  buildNumHi : Nat
  buildNumLow : Nat

namespace WireLoginAck

def content (a : WireLoginAck) : Bytes :=
  leBytes 1 a.interfaceNumber ++ (beBytes 4 a.tdsVersionNumber ++ (bVarChar a.progName ++
    (leBytes 1 a.major ++ (leBytes 1 a.minor ++ (leBytes 1 a.buildNumHi ++
      leBytes 1 a.buildNumLow)))))

structure Fits (a : WireLoginAck) : Prop where
  interfaceNumber : a.interfaceNumber < 256
  tdsVersionNumber : a.tdsVersionNumber < 4294967296
  progName : a.progName.length < 256
  major : a.major < 256
  minor : a.minor < 256
  buildNumHi : a.buildNumHi < 256
  buildNumLow : a.buildNumLow < 256

/-- The interface and the version by name. -/
def ack (a : WireLoginAck) : LoginAck where
  interface := interfaceType a.interfaceNumber
  tdsVersion := versionByValue a.tdsVersionNumber
  progName := a.progName
  major := a.major
  minor := a.minor
  buildNumHi := a.buildNumHi
  buildNumLow := a.buildNumLow

theorem length_content {a : WireLoginAck} (h : a.Fits) : a.content.length < 65536 := by
  have hname := h.progName
  simp only [content, List.length_append, length_leBytes, length_beBytes, length_bVarChar]
  omega

end WireLoginAck

theorem loginAckParser_reads {a : WireLoginAck} (h : a.Fits) :
    Reads loginAckParser (usVarByte a.content) (.loginAck a.ack) := by
  refine (readUInt16LE_reads (WireLoginAck.length_content h)).bind (Reads.ensure_bind rfl ?_)
  refine (readUInt8_reads h.interfaceNumber).returns.bind ?_
  refine (readUInt32BE_reads h.tdsVersionNumber).returns.bind ?_
  refine (readBVarChar_reads h.progName).returns.bind ?_
  refine (readUInt8_reads h.major).returns.bind ?_
  refine (readUInt8_reads h.minor).returns.bind ?_
  refine (readUInt8_reads h.buildNumHi).returns.bind ?_
  exact (readUInt8_reads h.buildNumLow).returns.map fun buildNumLow =>
    Token.loginAck { a.ack with buildNumLow }

/-! ### Orders -/

/-- The columns of an `ORDER`, two bytes each. -/
def orderContent (orderColumns : List Nat) : Bytes := orderColumns.flatMap (leBytes 2)

@[simp] theorem length_orderContent (orderColumns : List Nat) :
    (orderContent orderColumns).length = 2 * orderColumns.length := by
  induction orderColumns with
  | nil => rfl
  | cons column orderColumns ih =>
    rw [orderContent, List.flatMap_cons, List.length_append, length_leBytes, ← orderContent, ih,
      List.length_cons]
    omega

theorem orderParser_reads {orderColumns : List Nat} (h : ∀ column ∈ orderColumns, column < 65536)
    (hlength : (orderContent orderColumns).length < 65536) :
    Reads orderParser (usVarByte (orderContent orderColumns)) (.order orderColumns) := by
  refine (readUInt16LE_reads hlength).bind (Reads.ensure_bind rfl ?_)
  have hcolumns := Reads.times (leBytes 2) fun column hcolumn =>
    readUInt16LE_reads (h column hcolumn)
  have hcount : ((orderContent orderColumns).length + 1) / 2 = orderColumns.length := by
    rw [length_orderContent]
    omega
  rw [hcount]
  exact hcolumns.returns.map Token.order

/-! ### All of them -/

/-- A token with a length in front of its content, as the server means it. -/
inductive WireToken
  | envChange (change : WireChange)
  | info (data : MessageData)
  | error (data : MessageData)
  | loginAck (ack : WireLoginAck)
  | order (orderColumns : List Nat)
  | fedAuthInfo (table : WireFedAuthInfo)
  | featureExtAck (features : List WireFeature)

namespace WireToken

/-- The bytes behind the type byte. -/
def encode (options : ParserOptions) : WireToken → Bytes
  | envChange change => usVarByte change.content
  | info data | error data => usVarByte (data.content options)
  | loginAck ack => usVarByte ack.content
  | order orderColumns => usVarByte (orderContent orderColumns)
  | fedAuthInfo table => leBytes 4 table.content.length ++ table.content
  | featureExtAck features =>
    features.flatMap WireFeature.encode ++ leBytes 1 FeatureId.TERMINATOR

/-- Every value has the size of its field, the declared length too. -/
def Fits (options : ParserOptions) : WireToken → Prop
  | envChange change => change.Fits ∧ change.content.length < 65536
  | info data | error data => data.Fits options
  | loginAck ack => ack.Fits
  | order orderColumns =>
    (∀ column ∈ orderColumns, column < 65536) ∧ (orderContent orderColumns).length < 65536
  | fedAuthInfo table => table.Fits
  | featureExtAck features => ∀ f ∈ features, f.Fits

/-- What the client is to make of it. -/
def token : WireToken → Token
  | envChange change => .envChange change.change
  | info data => .infoMessage data
  | error data => .errorMessage data
  | loginAck ack => .loginAck ack.ack
  | order orderColumns => .order orderColumns
  | fedAuthInfo table =>
    .fedAuthInfo (WireFedAuthInfo.lastText 0x02 table.infos)
      (WireFedAuthInfo.lastText 0x01 table.infos)
  | featureExtAck features =>
    .featureExtAck (features.foldl WireFeature.acknowledge (none, none)).1
      (features.foldl WireFeature.acknowledge (none, none)).2

/-- The parser of a token's type; an `ENVCHANGE` may come to nothing. -/
def parser (options : ParserOptions) : WireToken → Reader (Option Token)
  | envChange _ => do
    let change ← envChangeParser
    pure (change.map .envChange)
  | info _ => do
    let token ← infoParser options
    pure (some token)
  | error _ => do
    let token ← errorParser options
    pure (some token)
  | loginAck _ => do
    let token ← loginAckParser
    pure (some token)
  | order _ => do
    let token ← orderParser
    pure (some token)
  | fedAuthInfo _ => do
    let token ← fedAuthInfoParser
    pure (some token)
  | featureExtAck _ => do
    let token ← featureExtAckParser
    pure (some token)

end WireToken

theorem infoParser_reads {options : ParserOptions} {m : MessageData} (h : m.Fits options) :
    Reads (infoParser options) (usVarByte (m.content options)) (.infoMessage m) :=
  (readMessageData_reads h).map Token.infoMessage

theorem errorParser_reads {options : ParserOptions} {m : MessageData} (h : m.Fits options) :
    Reads (errorParser options) (usVarByte (m.content options)) (.errorMessage m) :=
  (readMessageData_reads h).map Token.errorMessage

theorem featureExtAckParser_reads {features : List WireFeature} (h : ∀ f ∈ features, f.Fits) :
    Reads featureExtAckParser
      (features.flatMap WireFeature.encode ++ leBytes 1 FeatureId.TERMINATOR)
      (.featureExtAck (features.foldl WireFeature.acknowledge (none, none)).1
        (features.foldl WireFeature.acknowledge (none, none)).2) :=
  (featureExtAckLoop_reads h (none, none)).map fun acks => Token.featureExtAck acks.1 acks.2

namespace WireToken

/-- Each parser reads exactly the encoding of its token. -/
theorem parser_reads {options : ParserOptions} {t : WireToken} (h : t.Fits options) :
    Reads (t.parser options) (t.encode options) (some t.token) := by
  cases t with
  | envChange change => exact (envChangeParser_reads h.1 h.2).map (Option.map Token.envChange)
  | info data => exact (infoParser_reads (by exact h)).map some
  | error data => exact (errorParser_reads (by exact h)).map some
  | loginAck ack => exact (loginAckParser_reads (by exact h)).map some
  | order orderColumns => exact (orderParser_reads h.1 h.2).map some
  | fedAuthInfo table => exact (fedAuthInfoParser_reads (by exact h)).map some
  | featureExtAck features => exact (featureExtAckParser_reads (by exact h)).map some

/-- **Round trip.** Wherever a token stands, its parser returns the field values and stops
behind the content; on every proper prefix it asks for more. -/
theorem parser_encode {options : ParserOptions} {t : WireToken} (h : t.Fits options)
    (pre : Bytes) :
    (∀ rest, (t.parser options).run (pre ++ t.encode options ++ rest) pre.length =
      .ok ⟨some t.token, ((pre ++ t.encode options).length : Nat)⟩) ∧
    ∀ part, part <+: t.encode options → part ≠ t.encode options →
      ∃ n, (t.parser options).run (pre ++ part) pre.length = .error (.notEnoughData n) :=
  ⟨fun rest => (parser_reads h).returns pre rest, fun part => (parser_reads h).starves pre part⟩

/-- A `ROUTING` to the server `a` on port 1433. -/
theorem parser_encode_routing :
    (parser (.default asciiPlatform) (.envChange (.routing 1433 [0x61] []))).run
      ([] ++ [12, 0, 20, 7, 0, 0, 0x99, 5, 1, 0, 0x61, 0, 0, 0] ++ [0xFD]) 0 =
      .ok ⟨some (.envChange (.routing 0 1433 [0x61] [])), 14⟩ :=
  have h : Fits (.default asciiPlatform) (.envChange (.routing 1433 [0x61] [])) :=
    ⟨⟨by decide, by decide, by decide⟩, by decide⟩
  (parser_encode h []).1 [0xFD]

end WireToken

end Tedious
