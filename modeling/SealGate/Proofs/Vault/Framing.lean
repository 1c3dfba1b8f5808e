import SealGate.Proofs.Bytes.Text
import SealGate.Proofs.Json.Records
import SealGate.Vault.FileInfo
import SealGate.Vault.Header

/-! Records behind their length. A header and the metadata of a file are written as records with two
bytes for the length in front, and are read back with whatever follows them. The record of a header
has a wrapped key in hexadecimal digits, which take one byte each, so its length is known. -/

namespace SealGate

namespace Text.Hex

theorem exists_digit {bytes : Bytes} {c : Char} (mem : c ∈ encodeChars bytes) :
    ∃ n, n < 16 ∧ c = digit n := by
  obtain ⟨b, -, mem⟩ := List.mem_flatMap.1 mem
  have small := b.toNat_lt
  simp only [encodeByte, List.mem_cons, List.not_mem_nil, or_false] at mem
  rcases mem with rfl | rfl
  · exact ⟨_, by omega, rfl⟩
  · exact ⟨_, by omega, rfl⟩

theorem ascii_digit : ∀ n < 16, (digit n).val ≤ 127 := by decide

theorem renderChar_digit : ∀ n < 16, Json.Piece.renderChar (digit n) = [digit n] := by decide

theorem length_encodeChars (bytes : Bytes) : (encodeChars bytes).length = 2 * bytes.length := by
  induction bytes with
  | nil => rfl
  | cons b bytes ih =>
    rw [encodeChars] at ih ⊢
    rw [List.flatMap_cons, List.length_append, ih, List.length_cons]
    show 2 + _ = _
    omega

end Text.Hex

namespace Vault

open Json Cipher

/-- Hexadecimal digits stand for themselves in a string. -/
theorem renderChars_ofHex (bytes : Bytes) :
    (Node.ofHex bytes).renderChars = '"' :: (Text.Hex.encodeChars bytes ++ ['"']) := by
  have plain : ∀ chars : List Char, (∀ c ∈ chars, ∃ n, n < 16 ∧ c = Text.Hex.digit n) →
      (chars.map Piece.char).flatMap Piece.render = chars := by
    intro chars all
    induction chars with
    | nil => rfl
    | cons c chars ih =>
      obtain ⟨n, small, rfl⟩ := all c (by simp)
      rw [List.map_cons, List.flatMap_cons, ih fun other mem => all other (by simp [mem]),
        Piece.render, Text.Hex.renderChar_digit n small]
      rfl
  rw [Node.ofHex, Node.ofText, Node.renderChars, Piece.renderAll, Piece.ofText, Text.Hex.encode,
    String.toList_ofList, plain _ fun c mem => Text.Hex.exists_digit mem]

/-- A record behind its length. -/
def framed (node : Node) : Bytes :=
  Bytes.ofLittleEndian 2 node.toBytes.length ++ node.toBytes

theorem length_framed (node : Node) : (framed node).length = node.toBytes.length + 2 := by
  rw [framed, List.length_append, Bytes.length_ofLittleEndian, Nat.add_comm]

theorem framed_length {node : Node} (fits : node.toBytes.length < 2 ^ 16) (rest : Bytes) :
    Bytes.littleEndian ((framed node ++ rest).take 2) = node.toBytes.length := by
  have two : (Bytes.ofLittleEndian 2 node.toBytes.length).length = 2 :=
    Bytes.length_ofLittleEndian _ _
  rw [framed, List.append_assoc, List.take_left' two, Bytes.littleEndian_ofLittleEndian,
    Nat.mod_eq_of_lt (show node.toBytes.length < 256 ^ 2 by omega)]

theorem framed_record (node : Node) (rest : Bytes) :
    ((framed node ++ rest).drop 2).take node.toBytes.length = node.toBytes := by
  have two : (Bytes.ofLittleEndian 2 node.toBytes.length).length = 2 :=
    Bytes.length_ofLittleEndian _ _
  rw [framed, List.append_assoc, List.drop_left' two, List.take_left]

theorem toBytes_ne_nil {node : Node} (proper : node.IsProper) : node.toBytes ≠ [] := by
  obtain ⟨c, behind, text, -, -⟩ := Parser.head_renderChars proper
  rw [Node.toBytes, Node.render, Bytes.ofText_ofList, text, List.flatMap_cons]
  exact List.append_ne_nil_of_left_ne_nil String.utf8EncodeChar_ne_nil _

namespace Header

variable {version : UInt16} {wrappedKey : Bytes}

theorem recordNode_eq (version : UInt16) (wrappedKey : Bytes) :
    recordNode version wrappedKey =
      recordOf [("v", some (.ofNat version.toNat)), ("k", some (.ofHex wrappedKey))] := rfl

theorem readRecord?_recordNode (version : UInt16) (wrappedKey : Bytes) :
    readRecord? (recordNode version wrappedKey) = some (version, wrappedKey) := by
  have fields := fields?_recordOf [("v", some (.ofNat version.toNat)),
    ("k", some (.ofHex wrappedKey))] (by simp)
  rw [readRecord?, recordNode_eq]
  simp only [List.map_cons, List.map_nil] at fields
  rw [fields]
  simp [required, Node.hex?, Node.ofHex]

theorem isProper_recordNode (version : UInt16) (wrappedKey : Bytes) :
    (recordNode version wrappedKey).IsProper := by
  rw [recordNode_eq]
  refine isProper_recordOf fun key node mem => ?_
  simp only [List.mem_cons, Prod.mk.injEq, Option.some.injEq, List.not_mem_nil, or_false] at mem
  rcases mem with ⟨-, rfl⟩ | ⟨-, rfl⟩
  · exact Node.isProper_ofNat _
  · exact Node.isProper_ofText _

theorem renderChars_recordNode (wrappedKey : Bytes) :
    (recordNode maxVersion wrappedKey).renderChars =
      ['\x7b', '"', 'v', '"', ':', '2', ',', '"', 'k', '"', ':', '"'] ++
        (Text.Hex.encodeChars wrappedKey ++ ['"', '\x7d']) := by
  have two : Text.Decimal.digits maxVersion.toNat = ['2'] := by
    rw [Text.Decimal.digits, if_pos (by decide)]
    rfl
  have number : (Node.ofNat maxVersion.toNat).renderChars = ['2'] := by
    rw [Node.ofNat, Node.renderChars, Numeral.render, Numeral.ofNat, two]
    rfl
  have hex := renderChars_ofHex wrappedKey
  simp only [recordNode, record, member, List.flatten_cons, List.flatten_nil, List.append_nil,
    List.singleton_append, Node.renderChars, Node.renderMembers, number, hex]
  simp [joinComma, Piece.renderAll, Piece.ofText, Piece.render, Piece.renderChar]

/-- A header takes a fixed number of bytes beside its wrapped key. -/
theorem length_recordNode (wrappedKey : Bytes) :
    (recordNode maxVersion wrappedKey).toBytes.length = 2 * wrappedKey.length + 14 := by
  rw [Node.toBytes, Node.render, Bytes.length_ofText_ascii, renderChars_recordNode]
  · simp only [List.length_append, List.length_cons, List.length_nil, Text.Hex.length_encodeChars]
    omega
  · intro c mem
    rw [renderChars_recordNode, List.mem_append, List.mem_append] at mem
    rcases mem with mem | mem | mem
    · have front : (['\x7b', '"', 'v', '"', ':', '2', ',', '"', 'k', '"', ':', '"'].all
          fun c => c.val ≤ 127) = true := rfl
      simpa using List.all_eq_true.1 front c mem
    · obtain ⟨n, small, rfl⟩ := Text.Hex.exists_digit mem
      exact Text.Hex.ascii_digit n small
    · have back : (['"', '\x7d'].all fun c => c.val ≤ 127) = true := rfl
      simpa using List.all_eq_true.1 back c mem

/-- A header is read back with anything behind it. -/
theorem parse_framed (known : version ≤ maxVersion) (some : wrappedKey ≠ [])
    (fits : (recordNode version wrappedKey).toBytes.length + 2 ≤ maxLength) (rest : Bytes) :
    parse (framed (recordNode version wrappedKey) ++ rest) =
      .ok ⟨version, (recordNode version wrappedKey).toBytes.length + 2, wrappedKey⟩ := by
  have most : maxLength = 256 := rfl
  have proper := isProper_recordNode version wrappedKey
  have long := List.length_pos_iff.2 (toBytes_ne_nil proper)
  have whole := length_framed (recordNode version wrappedKey)
  have small : ¬ maxVersion < version := UInt16.not_lt.2 known
  rw [parse, framed_length (by omega), if_neg (by rw [List.length_append]; omega)]
  simp only
  rw [if_neg (by rw [List.length_append]; omega), framed_record,
    Node.ofBytes?_toBytes proper, Option.bind_some, readRecord?_recordNode]
  simp only [small, if_false, some]

end Header

namespace FileInfo

variable (info : FileInfo)

theorem toNode_eq :
    info.toNode = recordOf [("n", if info.name = "" then none else some (.ofText info.name)),
      ("ct", if info.contentType = "" then none else some (.ofText info.contentType)),
      ("sz", if info.size = 0 then none else some (.ofNat info.size.toNat))] := rfl

theorem ofNode?_toNode : ofNode? info.toNode = some info := by
  have fields := fields?_recordOf
    [("n", if info.name = "" then none else some (.ofText info.name)),
      ("ct", if info.contentType = "" then none else some (.ofText info.contentType)),
      ("sz", if info.size = 0 then none else some (.ofNat info.size.toNat))] (by simp)
  have name : defaulted "" Node.text?
      (if info.name = "" then none else some (.ofText info.name)) = some info.name :=
    defaulted_of_written (Node.text?_ofText _)
  have contentType : defaulted "" Node.text?
      (if info.contentType = "" then none else some (.ofText info.contentType)) =
      some info.contentType := defaulted_of_written (Node.text?_ofText _)
  have size : defaulted 0 Node.uint64?
      (if info.size = 0 then none else some (.ofNat info.size.toNat)) = some info.size :=
    defaulted_of_written (Node.uint64?_ofNat _)
  simp only [List.map_cons, List.map_nil] at fields
  rw [ofNode?, toNode_eq, fields]
  simp only [Option.bind_eq_bind, Option.bind_some, name, contentType, size, Option.pure_def]

theorem isProper_toNode : info.toNode.IsProper := by
  rw [toNode_eq]
  have kept {absent : Prop} [Decidable absent] {node written : Node} (proper : written.IsProper)
      (same : some node = if absent then none else some written) : node.IsProper := by
    split at same
    · cases same
    · rw [Option.some.inj same]
      exact proper
  refine isProper_recordOf fun key node mem => ?_
  simp only [List.mem_cons, Prod.mk.injEq, List.not_mem_nil, or_false] at mem
  rcases mem with ⟨-, name⟩ | ⟨-, contentType⟩ | ⟨-, size⟩
  · exact kept (Node.isProper_ofText _) name
  · exact kept (Node.isProper_ofText _) contentType
  · exact kept (Node.isProper_ofNat _) size

/-- The metadata is read back with any content behind it. -/
theorem split_framed (fits : info.toNode.toBytes.length ≤ maxLength) (content : Bytes) :
    split (framed info.toNode ++ content) = .ok (info, info.toNode.toBytes.length + 2) := by
  have most : maxLength = 32766 := rfl
  have proper := isProper_toNode info
  have long := List.length_pos_iff.2 (toBytes_ne_nil proper)
  have whole := length_framed info.toNode
  rw [split, framed_length (by omega), if_neg (by rw [List.length_append]; omega)]
  simp only
  rw [if_neg (by rw [List.length_append]; omega), if_neg (by omega), framed_record,
    Node.ofBytes?_toBytes proper, Option.bind_some, ofNode?_toNode]

end FileInfo

end Vault

end SealGate
