import CspTerm.Csp.Sendto
import CspTerm.Csp.Sha1
import CspTerm.Lib.StreamCipher

/-!
# Secured packets (`csp_xtea.c`, `csp_hmac.c`, `csp_io.c`, `csp_route.c`)

The sender puts an authentication code and a checksum behind the data of a packet, encrypts all of it
and puts the number that starts the key stream behind it. The router of the receiver undoes this in
the opposite order.
-/

namespace CspTerm.Csp

/-! ## XTEA in counter mode -/

abbrev xteaBlockSize : Nat := 8
def xteaRounds : Nat := 32
def xteaDelta : UInt32 := 0x9E3779B9

/-- `k[i & 3]`. -/
def CspKey.word (key : CspKey) (i : UInt32) : UInt32 :=
  word32 ((key.val.drop (4 * (i &&& 3).toNat)).take 4)

/-- The loop over the rounds. -/
def xteaLoop (key : CspKey) : Nat → UInt32 → UInt32 → UInt32 → UInt32 × UInt32
  | 0, v0, v1, _ => (v0, v1)
  | n + 1, v0, v1, sum =>
    let v0 := v0 + ((((v1 <<< 4) ^^^ (v1 >>> 5)) + v1) ^^^ (sum + key.word sum))
    let sum := sum + xteaDelta
    let v1 := v1 + ((((v0 <<< 4) ^^^ (v0 >>> 5)) + v0) ^^^ (sum + key.word (sum >>> 11)))
    xteaLoop key n v0 v1 sum

def cspXteaEncryptBlock (key : CspKey) (block : List UInt8) : List UInt8 :=
  let (v0, v1) := xteaLoop key xteaRounds (word32 (block.take 4)) (word32 ((block.drop 4).take 4)) 0
  bytes32 v0 ++ bytes32 v1

def cspXteaXorByte (dst src : List UInt8) : List UInt8 := List.zipWith (· ^^^ ·) dst src

/-- `stream`, before it is encrypted. -/
def xteaCounter (iv0 iv1 : UInt32) : List UInt8 := bytes32 (cspHton32 iv0) ++ bytes32 (cspHton32 iv1)

/-- The loop over the blocks, on the text that remains. -/
def xteaBlocks (key : CspKey) (iv0 : UInt32) :
    Nat → UInt32 → List UInt8 → List UInt8 → List UInt8
  | 0, _, _, plain => plain
  | blocks + 1, iv1, stream, plain =>
    let stream := cspXteaEncryptBlock key stream
    let n := if plain.length < xteaBlockSize then plain.length else xteaBlockSize
    cspXteaXorByte (plain.take n) (stream.take n) ++
      xteaBlocks key iv0 blocks (iv1 + 1) (xteaCounter iv0 iv1) (plain.drop n)

def cspXteaEncrypt (key : CspKey) (plain : List UInt8) (iv0 iv1 : UInt32) : List UInt8 :=
  xteaBlocks key iv0 ((plain.length + xteaBlockSize - 1) / xteaBlockSize) iv1 (xteaCounter iv0 iv1)
    plain

def cspXteaDecrypt (key : CspKey) (cipher : List UInt8) (iv0 iv1 : UInt32) : List UInt8 :=
  cspXteaEncrypt key cipher iv0 iv1

/-! ## Keys -/

structure CspKeys where
  hmac : CspKey
  xtea : CspKey

/-- The keys before they are set: static memory. -/
def CspKeys.zero : CspKeys :=
  { hmac := ⟨List.replicate 16 0, rfl⟩, xtea := ⟨List.replicate 16 0, rfl⟩ }

/-- What both modules do with the key that they are given: its hash is the key. -/
def deriveKey (key : List UInt8) : CspKey :=
  ⟨(cspSha1Memory key).take 16, by
    rw [List.length_take, cspSha1Memory, cspSha1Done]
    rfl⟩

def cspHmacSetKey (keys : CspKeys) (key : List UInt8) : CspKeys := { keys with hmac := deriveKey key }

def cspXteaSetKey (keys : CspKeys) (key : List UInt8) : CspKeys := { keys with xtea := deriveKey key }

/-! ## Sending -/

abbrev cspHmacLength : Nat := 4

/-- `csp_hmac_append`. The code is taken over the bytes that a checksum covers. -/
def cspHmacAppend (key : CspKey) (packet : CspPacket) (includeHeader : Bool) : CspPacket :=
  -- the key is not empty, so there is a code
  packet.push (((cspHmacMemory key.val
    (crcInput packet includeHeader packet.length.toNat)).getD []).take cspHmacLength)

/-- What `csp_send_direct` does for XTEA: the nonce goes behind the data, which is encrypted. -/
def xteaAppend (key : CspKey) (nonce : UInt32) (packet : CspPacket) : CspPacket :=
  let data := packet.data.put packet.length.toNat (bytes32 (cspHton32 nonce))
  let data := data.put 0 (cspXteaEncrypt key (data.val.take packet.length.toNat) nonce 1)
  { packet with data := data, length := packet.length + 4 }

/-- `csp_send_direct` with these keys and this value of `rand`. -/
def securityEnv (keys : CspKeys) (nonce : UInt32) (address : Fin 32)
    (rtableFindIface : UInt8 → Option CspIface) : SendEnv :=
  { address := address
    rtableFindIface := rtableFindIface
    hmacAppend := fun packet => cspHmacAppend keys.hmac packet false
    crc32Append := fun packet => cspCrc32Append packet false
    xteaEncrypt := xteaAppend keys.xtea nonce }

/-! ## Receiving -/

def cspSoRdpreq : UInt32 := 0x0001
def cspSoHmacreq : UInt32 := 0x0004
def cspSoXteareq : UInt32 := 0x0010

/-- `csp_hmac_verify`. -/
def cspHmacVerify (key : CspKey) (packet : CspPacket) (includeHeader : Bool) : Checked CspPacket :=
  -- with the header, a packet that is too short makes use of the bytes of its identifier
  let memory := (if includeHeader then bytes32 packet.id.ext else []) ++ packet.data.val
  let size := (if includeHeader then 4 else 0) + packet.length.toNat
  -- the length of the message wraps
  if size < cspHmacLength then .overrun
  else
    let hmac := (cspHmacMemory key.val (memory.take (size - cspHmacLength))).getD []
    if (memory.take size).drop (size - cspHmacLength) ≠ hmac.take cspHmacLength then
      .error cspErrHmac
    else .ok { packet with length := packet.length - 4 }

/-! The parts of `csp_route_security_check`, without the statistics of the interface. -/

def xteaRemove (key : CspKey) (packet : CspPacket) : Checked CspPacket :=
  -- the length wraps: about 64 KiB are decrypted, and the packet is not refused
  if packet.length < 4 then .overrun
  else
    let nonce := cspNtoh32 (word32 (packet.payload.drop (packet.length.toNat - 4)))
    let length := packet.length - 4
    let text := cspXteaDecrypt key (packet.data.val.take length.toNat) nonce 1
    .ok { packet with data := packet.data.put 0 text, length := length }

def xteaCheck (key : CspKey) (opts : UInt32) (packet : CspPacket) : Checked CspPacket :=
  if packet.id.flags &&& cspFxtea ≠ 0 then xteaRemove key packet
  else if opts &&& cspSoXteareq ≠ 0 then .error cspErrXtea
  else .ok packet

def crc32Check (packet : CspPacket) : Checked CspPacket :=
  if packet.id.flags &&& cspFcrc32 ≠ 0 then
    match cspCrc32Verify packet false with
    | none => .error cspErrCrc32
    | some packet => .ok packet
  -- `CSP_SO_CRC32REQ` is only logged
  else .ok packet

def hmacCheck (key : CspKey) (opts : UInt32) (packet : CspPacket) : Checked CspPacket :=
  if packet.id.flags &&& cspFhmac ≠ 0 then cspHmacVerify key packet false
  else if opts &&& cspSoHmacreq ≠ 0 then .error cspErrHmac
  else .ok packet

def rdpCheck (opts : UInt32) (packet : CspPacket) : Checked CspPacket :=
  if packet.id.flags &&& cspFrdp = 0 ∧ opts &&& cspSoRdpreq ≠ 0 then .error cspErrInval
  else .ok packet

def cspRouteSecurityCheck (keys : CspKeys) (opts : UInt32) (packet : CspPacket) : Checked CspPacket :=
  xteaCheck keys.xtea opts packet >>= crc32Check >>= hmacCheck keys.hmac opts >>= rdpCheck opts

/-! ## On the way -/

/-- A node that passes a packet on: `csp_route_work` gives it to `csp_send_direct` as it is. -/
structure Relay where
  env : SendEnv
  ifout : Option CspIface

def Relay.forward (relay : Relay) (packet : CspPacket) : Option CspPacket :=
  (cspSendDirect relay.env packet.id packet relay.ifout 0).2

/-- The packet that leaves the last of these nodes. -/
def forwarded (path : List Relay) (packet : CspPacket) : Option CspPacket :=
  path.foldlM (fun packet relay => relay.forward packet) packet

/-! ## What a secured packet carries -/

/-- The byte of the key stream at a position. The first two blocks have the same counter. -/
def keyStream (key : CspKey) (iv0 iv1 : UInt32) (i : Nat) : UInt8 :=
  (cspXteaEncryptBlock key
    (xteaCounter iv0 (iv1 + UInt32.ofNat (i / xteaBlockSize - 1)))).getD (i % xteaBlockSize) 0

def withHmac (key : CspKey) (message : List UInt8) : List UInt8 :=
  message ++ (Sha1.hmac Sha1.hash sha1BlockSize key.val message).take cspHmacLength

def withCrc32 (message : List UInt8) : List UInt8 :=
  message ++ bytes32 (cspHton32 (cspCrc32Memory message))

def withXtea (key : CspKey) (nonce : UInt32) (message : List UInt8) : List UInt8 :=
  StreamCipher.mask (keyStream key nonce 1) message ++ bytes32 (cspHton32 nonce)

/-- The checksum and the encryption that the flags ask for. -/
def wrap (keys : CspKeys) (flags : UInt8) (nonce : UInt32) (message : List UInt8) : List UInt8 :=
  let message := if flags &&& cspFcrc32 ≠ 0 then withCrc32 message else message
  if flags &&& cspFxtea ≠ 0 then withXtea keys.xtea nonce message else message

/-- A message as it is sent with these flags. -/
def protect (keys : CspKeys) (flags : UInt8) (nonce : UInt32) (message : List UInt8) : List UInt8 :=
  wrap keys flags nonce
    (if flags &&& cspFhmac ≠ 0 then withHmac keys.hmac message else message)

/-- The number of bytes that the flags add. -/
def overhead (flags : UInt8) : Nat :=
  (if flags &&& cspFhmac ≠ 0 then 4 else 0) + (if flags &&& cspFcrc32 ≠ 0 then 4 else 0) +
    (if flags &&& cspFxtea ≠ 0 then 4 else 0)

/-- What the options of a socket require of the flags. -/
structure Admitted (opts : UInt32) (flags : UInt8) : Prop where
  xtea : opts &&& cspSoXteareq ≠ 0 → flags &&& cspFxtea ≠ 0
  hmac : opts &&& cspSoHmacreq ≠ 0 → flags &&& cspFhmac ≠ 0
  rdp : opts &&& cspSoRdpreq ≠ 0 → flags &&& cspFrdp ≠ 0

end CspTerm.Csp
