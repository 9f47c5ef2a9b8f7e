import PulseMesh.Accountant.Basic
import PulseMesh.SubLib.Messages

/-!
# Protocol packs

What the proxy server knows of the two protocols it serves: how the host stands in a request, and what
a client is told in the name of a server that cannot be reached.  The data of a client comes as it was
read from the socket, so that a request may be cut anywhere.
-/

namespace PulseMesh.ProxyServer

open Machine SubLib Accountant List Option

def httpPort : UInt16 := 80

def tlsPort : UInt16 := 443

structure InboundClientData where
  timestamp : SystemTime
  clientAddr : SocketAddr
  receptionPort : Option UInt16
  lastData : Bool
  sequenceNumber : Option U64
  data : Bytes

structure Host where
  name : String
  port : UInt16

def indexOf {α : Type} [DecidableEq α] : List α → List α → Option Nat
  | [], _ => none
  | first :: rest, needles =>
    if needles = [] then none
    else if needles.isPrefixOf (first :: rest) then some 0
    else (indexOf rest needles).map (· + 1)

/-! ### HTTP -/

namespace HttpProtocolPack

/-- `port_str.parse::<u16>()` -/
def portFromString (port : List Char) : Option UInt16 :=
  let digits := match port with
    | '+' :: digits => digits
    | digits => digits
  if digits.isEmpty || !digits.all Char.isDigit then none
  else
    let value := digits.foldl (fun value digit => 10 * value + (digit.toNat - '0'.toNat)) 0
    if value < 65536 then some (UInt16.ofNat value) else none

def hostFromHostNameAndPort (hostAndPort : List Char) : Option Host :=
  match hostAndPort.splitOn ':' with
  | [name] => some ⟨String.ofList name, httpPort⟩
  | [name, port] => (portFromString port).map fun port => ⟨String.ofList name, port⟩
  | _ => none

/-- `\s` -/
def isSpace (c : Char) : Bool :=
  let code := c.toNat
  (9 ≤ code && code ≤ 13) || code == 0x20 || code == 0x85 || code == 0xa0 || code == 0x1680 ||
    (0x2000 ≤ code && code ≤ 0x200a) || code == 0x2028 || code == 0x2029 || code == 0x202f ||
    code == 0x205f || code == 0x3000

/-- The path without a scheme in front of it. -/
def dropScheme (path : List Char) : Option (List Char) :=
  if "http://".toList.isPrefixOf path then some (path.drop 7)
  else if "https://".toList.isPrefixOf path then some (path.drop 8)
  else none

/-- `^(?:https?://)?([^\s/]+)`: the scheme counts as the host if nothing follows it. -/
def hostPattern (path : List Char) : Option (List Char) :=
  let authority (path : List Char) := path.takeWhile fun c => !isSpace c && c != '/'
  match (dropScheme path).map authority with
  | some (first :: rest) => some (first :: rest)
  | _ => if (authority path).isEmpty then none else some (authority path)

variable (data : Bytes)

def findUrlHost : Option Host := do
  let index ← indexOf data (utf8Bytes "\r\n")
  let firstLine := data.take index
  let pathBegin := (← indexOf firstLine (utf8Bytes " ")) + 1
  let pathEnd ← indexOf (data.drop pathBegin) (utf8Bytes " ")
  let path ← fromUtf8 ((data.drop pathBegin).take pathEnd)
  let host ← hostFromHostNameAndPort (← hostPattern path.toList)
  if host.name.isEmpty then none else some host

def findHeaderHost : Option Host := do
  let index ← indexOf data (utf8Bytes "\r\n\r\n")
  let headers := data.take (index + 2)
  let needle := utf8Bytes "\r\nHost: "
  let begin := (← indexOf headers needle) + needle.length
  let length ← indexOf (headers.drop begin) (utf8Bytes "\r\n")
  let hostAndPort ← fromUtf8 ((headers.drop begin).take length)
  hostFromHostNameAndPort hostAndPort.toList

def findHost : Option Host :=
  match findHeaderHost data with
  | some host => some host
  | none => findUrlHost data

def isConnect : Bool :=
  (data.take 8).takeWhile (· != 32) == utf8Bytes "CONNECT"

end HttpProtocolPack

/-! ### TLS -/

namespace TlsProtocolPack

/-- What is left to traverse after that many bytes. -/
def advance (count : Nat) (bytes : Bytes) : Option Bytes :=
  if count ≤ bytes.length then some (bytes.drop count) else none

def getU8 : Bytes → Option (Nat × Bytes)
  | byte :: bytes => some (byte.toNat, bytes)
  | _ => none

def getU16 : Bytes → Option (Nat × Bytes)
  | high :: low :: bytes => some (256 * high.toNat + low.toNat, bytes)
  | _ => none

def hostNameFromListEntry (bytes : Bytes) : Option String := do
  let (serverNameLength, bytes) ← getU16 bytes
  let _ ← advance serverNameLength bytes
  fromUtf8 (bytes.take serverNameLength)

/-- The entries of the list, which ends that many bytes on. -/
def hostNameFromList (listLength : Nat) (bytes : Bytes) : Option String :=
  if listLength = 0 then none
  else
    match bytes with
    | serverNameType :: bytes =>
      if serverNameType = 0 then hostNameFromListEntry bytes
      else
        match bytes with
        | high :: low :: bytes =>
          let serverNameLength := 256 * high.toNat + low.toNat
          if serverNameLength ≤ bytes.length then
            hostNameFromList (listLength - (3 + serverNameLength)) (bytes.drop serverNameLength)
          else none
        | _ => none
    | [] => none
termination_by bytes.length
decreasing_by simp only [length_drop, length_cons]; omega

def hostNameFromExtension (bytes : Bytes) : Option String := do
  let bytes ← advance 2 bytes
  let (serverNameListLength, bytes) ← getU16 bytes
  hostNameFromList serverNameListLength bytes

/-- The extensions, which end that many bytes on. -/
def hostNameFromExtensions (extensionsLength : Nat) (bytes : Bytes) : Option String :=
  if extensionsLength = 0 then none
  else
    match bytes with
    | high :: low :: bytes =>
      if 256 * high.toNat + low.toNat = 0 then hostNameFromExtension bytes
      else
        match bytes with
        | high :: low :: bytes =>
          let extensionLength := 256 * high.toNat + low.toNat
          if extensionLength ≤ bytes.length then
            hostNameFromExtensions (extensionsLength - (4 + extensionLength)) (bytes.drop extensionLength)
          else none
        | _ => none
    | _ => none
termination_by bytes.length
decreasing_by simp only [length_drop, length_cons]; omega

/-- From behind the message type, which is the sixth byte, to the session id at position 43. -/
def hostNameFromClientHello (bytes : Bytes) : Option String := do
  let bytes ← advance (43 - 6) bytes
  let (sessionIdLength, bytes) ← getU8 bytes
  let bytes ← advance sessionIdLength bytes
  let (cipherSuitesLength, bytes) ← getU16 bytes
  let bytes ← advance cipherSuitesLength bytes
  let (compressionMethodsLength, bytes) ← getU8 bytes
  let bytes ← advance compressionMethodsLength bytes
  let (extensionsLength, bytes) ← getU16 bytes
  hostNameFromExtensions extensionsLength bytes

def handshakeContentType : UInt8 := 22

def clientHelloMessageType : UInt8 := 1

def findHost (data : Bytes) : Except Panic (Option Host) :=
  match data with
  | [] => .ok none
  | contentType :: bytes =>
    if contentType ≠ handshakeContentType then .ok none
    else
      -- the message type is at position 5, and data that end before it are not expected
      match advance (5 - 1) bytes with
      | none => .error (.raised "Internal Error: ()")
      | some [] => .ok none
      | some (messageType :: bytes) =>
        if messageType ≠ clientHelloMessageType then .ok none
        else .ok ((hostNameFromClientHello bytes).map fun name => ⟨name, tlsPort⟩)

/-- Behind the content type: the message type is at position 5, which the data are expected to reach. -/
def isClientHello (bytes : Bytes) : Except Panic Bool :=
  match advance (5 - 1) bytes with
  | none => .error (.raised "Internal Error: ()")
  | some bytes => .ok (bytes.head? == some clientHelloMessageType)

lemma findHost_handshake (bytes) :
    findHost (handshakeContentType :: bytes) = (isClientHello bytes).map fun hello =>
      if hello then (hostNameFromClientHello (bytes.drop 5)).map fun name => ⟨name, tlsPort⟩ else none := by
  simp only [findHost, ne_eq, not_true_eq_false, if_false, isClientHello, advance]
  by_cases reached : 5 - 1 ≤ bytes.length
  · simp only [reached, if_true]
    cases behind : bytes.drop (5 - 1) with
    | nil => rfl
    | cons messageType rest =>
      have drops : bytes.drop 5 = rest := by rw [← tail_drop, behind, tail_cons]
      by_cases hello : messageType = clientHelloMessageType <;> simp [hello, drops, Except.map]
  · simp only [reached, if_false]
    rfl

lemma isClientHello_returns_iff (bytes) :
    (∃ hello, isClientHello bytes = .ok hello) ↔ 4 ≤ bytes.length := by
  by_cases reached : 4 ≤ bytes.length <;> simp [isClientHello, advance, reached]

/-- The first bytes of a handshake, cut before its message type. -/
def CutHandshake (data : Bytes) : Prop :=
  data.head? = some handshakeContentType ∧ data.length < 5

instance (data : Bytes) : Decidable (CutHandshake data) :=
  inferInstanceAs (Decidable (_ ∧ _))

lemma findHost_returns_iff (data) : (∃ host, findHost data = .ok host) ↔ ¬CutHandshake data := by
  cases data with
  | nil => simp [findHost, CutHandshake]
  | cons contentType bytes =>
    by_cases handshake : contentType = handshakeContentType
    · subst handshake
      have reaches := isClientHello_returns_iff bytes
      rw [findHost_handshake]
      cases detects : isClientHello bytes with
      | error stop => simpa [detects, Except.map, CutHandshake] using reaches
      | ok hello => simpa [detects, Except.map, CutHandshake] using reaches
    · simp [findHost, CutHandshake, handshake]

/-- **Inspection**: a host is looked for and a client hello detected in all data but the cut ones. -/
theorem inspection_is_total (data : Bytes) (uncut : ¬CutHandshake data) :
    (∃ host, findHost data = .ok host) ∧
      (data.head? = some handshakeContentType → ∃ hello, isClientHello data.tail = .ok hello) := by
  refine ⟨(findHost_returns_iff data).mpr uncut, fun handshake => ?_⟩
  rw [isClientHello_returns_iff, length_tail]
  have whole : ¬data.length < 5 := fun short => uncut ⟨handshake, short⟩
  omega

theorem inspection_of_empty_record :
    (∃ host, findHost [22, 3, 1, 0, 0] = .ok host) ∧
      ([22, 3, 1, 0, 0].head? = some handshakeContentType →
        ∃ hello, isClientHello [3, 1, 0, 0] = .ok hello) := inspection_is_total [22, 3, 1, 0, 0] (by decide)

theorem cut_handshake_panics :
    findHost [22, 3, 1] = .error (.raised "Internal Error: ()") ∧
      isClientHello [3, 1] = .error (.raised "Internal Error: ()") := ⟨rfl, rfl⟩

/-! #### Client hellos -/

section

open List

/-- Data behind their length, which takes two bytes. -/
def sized (data : Bytes) : Bytes :=
  .ofNat (data.length / 256) :: .ofNat data.length :: data

inductive ServerName where
  | hostName (name : String)
  | other (nameType : UInt8) (isOther : nameType ≠ 0) (data : Bytes)

def ServerName.encode : ServerName → Bytes
  | hostName name => 0 :: sized (utf8Bytes name)
  | other nameType _ data => nameType :: sized data

def ServerName.hostNameOpt : ServerName → Option String
  | hostName name => some name
  | other .. => none

inductive Extension where
  | serverName (names : List ServerName)
  | other (high low : UInt8) (isOther : ¬(high = 0 ∧ low = 0)) (data : Bytes)

def Extension.encode : Extension → Bytes
  | serverName names => 0 :: 0 :: sized (sized (names.flatMap ServerName.encode))
  | other high low _ data => high :: low :: sized data

def Extension.namesOpt : Extension → Option (List ServerName)
  | serverName names => some names
  | other .. => none

/-- A client hello in its record.  The header is the version and the length of the record; the length of the
message and another version come with the random.  Nobody looks at these. -/
structure ClientHello where
  header : Bytes
  header_length : header.length = 4
  random : Bytes
  random_length : random.length = 37
  sessionId : Bytes
  sessionId_fits : sessionId.length < 256
  cipherSuites : Bytes
  cipherSuites_fit : cipherSuites.length < 2 ^ 16
  compressionMethods : Bytes
  compressionMethods_fit : compressionMethods.length < 256
  extensionsOpt : Option (List Extension)
  extensions_fit : ∀ extensions ∈ extensionsOpt, (extensions.flatMap Extension.encode).length < 2 ^ 16

def ClientHello.encode (hello : ClientHello) : Bytes :=
  handshakeContentType :: (hello.header ++ clientHelloMessageType :: (hello.random ++
    .ofNat hello.sessionId.length :: (hello.sessionId ++ (sized hello.cipherSuites ++
      .ofNat hello.compressionMethods.length :: (hello.compressionMethods ++
        hello.extensionsOpt.elim [] fun extensions => sized (extensions.flatMap Extension.encode))))))

/-- The first host name of the first extension with server names. -/
def ClientHello.host (hello : ClientHello) : Option Host :=
  let namesOpt := hello.extensionsOpt.bind (·.findSome? Extension.namesOpt)
  (namesOpt.bind (·.findSome? ServerName.hostNameOpt)).map (⟨·, tlsPort⟩)

lemma length_of_bytes {count : Nat} (fits : count < 2 ^ 16) :
    256 * (UInt8.ofNat (count / 256)).toNat + (UInt8.ofNat count).toNat = count := by
  simp only [UInt8.toNat_ofNat']
  omega

lemma getU16_sized (fits : data.length < 2 ^ 16) (rest) :
    getU16 (sized data ++ rest) = some (data.length, data ++ rest) := by
  simp only [getU16, sized, cons_append, length_of_bytes fits]

lemma advance_append (data rest) : advance data.length (data ++ rest) = some rest := by
  simp [advance]

lemma fromUtf8_utf8Bytes (text : String) : fromUtf8 (utf8Bytes text) = some text := dif_pos text.isValidUTF8

lemma hostNameFromList_encode {names : List ServerName}
    (fit : (names.flatMap ServerName.encode).length < 2 ^ 16) (rest) :
    hostNameFromList (names.flatMap ServerName.encode).length (names.flatMap ServerName.encode ++ rest) =
      names.findSome? ServerName.hostNameOpt := by
  induction names with
  | nil =>
    rw [hostNameFromList.eq_def]
    rfl
  | cons name names ih =>
    rw [flatMap_cons, length_append] at fit
    have later := ih (by omega)
    rw [flatMap_cons, length_append, append_assoc, hostNameFromList.eq_def]
    cases name with
    | hostName name =>
      have fits : (utf8Bytes name).length < 2 ^ 16 := by
        simp only [ServerName.encode, sized, length_cons] at fit
        omega
      simp [ServerName.encode, hostNameFromListEntry, getU16_sized fits, advance_append, fromUtf8_utf8Bytes,
        ServerName.hostNameOpt, findSome?]
    | other nameType isOther data =>
      have fits : data.length < 2 ^ 16 := by
        simp only [ServerName.encode, sized, length_cons] at fit
        omega
      simp only [ServerName.encode, sized, cons_append, length_cons, length_of_bytes fits, if_neg isOther,
        length_append, drop_left, Nat.le_add_right, if_true, findSome?_cons, ServerName.hostNameOpt, ← later]
      rw [if_neg (by omega)]
      congr 1
      omega

lemma hostNameFromExtensions_encode {extensions : List Extension}
    (fit : (extensions.flatMap Extension.encode).length < 2 ^ 16) :
    hostNameFromExtensions (extensions.flatMap Extension.encode).length (extensions.flatMap Extension.encode) =
      (extensions.findSome? Extension.namesOpt).bind (·.findSome? ServerName.hostNameOpt) := by
  induction extensions with
  | nil =>
    rw [hostNameFromExtensions.eq_def]
    rfl
  | cons extension extensions ih =>
    rw [flatMap_cons, length_append] at fit
    have later := ih (by omega)
    rw [flatMap_cons, length_append, hostNameFromExtensions.eq_def]
    cases extension with
    | serverName names =>
      have fits : (names.flatMap ServerName.encode).length < 2 ^ 16 := by
        simp only [Extension.encode, sized, length_cons] at fit
        omega
      -- the length of the extension is passed over, and that of the list is read
      have skips (data rest : Bytes) : advance 2 (sized data ++ rest) = some (data ++ rest) := by
        simp [advance, sized]
      rw [Extension.encode, cons_append, cons_append, if_neg (by simp)]
      simp only [UInt8.toNat_zero, Nat.mul_zero, Nat.add_zero, if_true, hostNameFromExtension, skips,
        bind_eq_bind, bind_some, getU16_sized fits, hostNameFromList_encode fits]
      rfl
    | other high low isOther data =>
      have fits : data.length < 2 ^ 16 := by
        simp only [Extension.encode, sized, length_cons] at fit
        omega
      have notZero : 256 * high.toNat + low.toNat ≠ 0 := by
        intro zero
        refine isOther ⟨UInt8.toNat_inj.mp ?_, UInt8.toNat_inj.mp ?_⟩ <;> simp <;> omega
      simp only [Extension.encode, sized, cons_append, length_cons, length_of_bytes fits, if_neg notZero,
        length_append, drop_left, Nat.le_add_right, if_true, findSome?_cons, Extension.namesOpt, ← later]
      rw [if_neg (by omega)]
      congr 1
      omega

/-- **Server names**: the host of a client hello is found, and none if it names no host. -/
theorem findHost_encode (hello : ClientHello) : findHost hello.encode = .ok hello.host := by
  obtain ⟨header, header_length, random, random_length, sessionId, sessionId_fits, cipherSuites,
    cipherSuites_fit, compressionMethods, compressionMethods_fit, extensionsOpt, extensions_fit⟩ := hello
  have atMessage (rest : Bytes) : advance (5 - 1) (header ++ rest) = some rest := by
    simpa [header_length] using advance_append header rest
  have atSession (rest : Bytes) : advance (43 - 6) (random ++ rest) = some rest := by
    simpa [random_length] using advance_append random rest
  have byte {count : Nat} (fits : count < 256) : (UInt8.ofNat count).toNat = count := by
    simp only [UInt8.toNat_ofNat']
    omega
  simp only [ClientHello.encode, findHost, ne_eq, not_true_eq_false, if_false, atMessage,
    hostNameFromClientHello, atSession, getU8, bind_eq_bind, bind_some, byte sessionId_fits,
    byte compressionMethods_fit, advance_append, getU16_sized cipherSuites_fit, ClientHello.host]
  cases extensionsOpt with
  | none => rfl
  | some extensions =>
    have fits := extensions_fit extensions rfl
    have walks := getU16_sized fits []
    rw [append_nil, append_nil] at walks
    simp only [elim_some, walks, bind_some, hostNameFromExtensions_encode fits]

end

end TlsProtocolPack

/-! ### Answers in the name of a server -/

namespace ServerImpersonatorHttp

def errorTemplate : String :=
  "<html>\n<body>\n<h1>Error \x7bstatus\x7d</h1>\n<h2>Title: \x7btitle\x7d</h2>\n" ++
    "<h3>Subtitle: \x7bsubtitle\x7d</h3>\n<p>\x7bcontent\x7d</p>\n</body>\n</html>\n"

def httpResponseTemplate : String :=
  "HTTP/1.1 \x7bstatus\x7d Routing Error\r\nContent-Type: text/html\r\n" ++
    "Content-Length: \x7blength\x7d\r\n\r\n\x7bbody\x7d"

def makeErrorPage (status : Nat) (title subtitle content : String) : String :=
  (((errorTemplate.replace "\x7bstatus\x7d" (toString status)).replace "\x7btitle\x7d" title).replace
    "\x7bsubtitle\x7d" subtitle).replace "\x7bcontent\x7d" content

def makeErrorResponse (status : Nat) (title subtitle content : String) : Bytes :=
  let html := makeErrorPage status title subtitle content
  utf8Bytes (((httpResponseTemplate.replace "\x7bstatus\x7d" (toString status)).replace
    "\x7blength\x7d" (toString (utf8Bytes html).length)).replace "\x7bbody\x7d" html)

def routeQueryFailureResponse (serverName : String) : Bytes :=
  makeErrorResponse 503 "Routing Problem" s!"Can't find a route to {serverName}"
    ("MASQ can't find a route through the Network yet to a Node that knows " ++
      s!"where to find {serverName}. Maybe later enough will be known about the Network to " ++
      "find that Node, but we can't guarantee it. We're sorry.")

def dnsResolutionFailureResponse (serverNameOpt : Option String) : Bytes :=
  let (serverName, quotedServerName) := match serverNameOpt with
    | some name => (name, "\"" ++ name ++ "\"")
    | none => ("<unspecified>", "<unspecified>")
  makeErrorResponse 503 "DNS Resolution Problem" s!"Exit Nodes couldn't resolve {quotedServerName}"
    ("DNS Failure, We have tried multiple Exit Nodes and all have failed to resolve this address " ++
      serverName)

def consumingWalletAbsent : Bytes :=
  makeErrorResponse 402 "Consuming Wallet Required" "Can't consume without wallet to pay from"
    ("You're trying to consume routing and exit services from other Nodes, but you haven't " ++
      "specified a consuming wallet from which your Node can pay the bills you're about to incur. " ++
      "Set up a funded consuming wallet and try again.")

end ServerImpersonatorHttp

namespace ServerImpersonatorTls

def tlsInternalErrorAlert : Bytes := [0x15, 0x03, 0x03, 0x00, 0x02, 0x02, 0x50]

def tlsUnrecognizedNameAlert : Bytes := [0x15, 0x03, 0x03, 0x00, 0x02, 0x02, 0x70]

def routeQueryFailureResponse (_serverName : String) : Bytes := tlsInternalErrorAlert

def dnsResolutionFailureResponse (_serverName : Option String) : Bytes := tlsUnrecognizedNameAlert

def consumingWalletAbsent : Bytes := tlsInternalErrorAlert

end ServerImpersonatorTls

/-! ### Packs -/

structure ServerImpersonator where
  routeQueryFailureResponse : String → Bytes
  dnsResolutionFailureResponse : Option String → Bytes
  consumingWalletAbsent : Bytes

structure ProtocolPack where
  proxyProtocol : ProxyProtocol
  standardPort : UInt16
  findHost : Bytes → Except Panic (Option Host)
  serverImpersonator : ServerImpersonator

def httpProtocolPack : ProtocolPack where
  proxyProtocol := .http
  standardPort := httpPort
  findHost data := .ok (HttpProtocolPack.findHost data)
  serverImpersonator := ⟨ServerImpersonatorHttp.routeQueryFailureResponse,
    ServerImpersonatorHttp.dnsResolutionFailureResponse, ServerImpersonatorHttp.consumingWalletAbsent⟩

def tlsProtocolPack : ProtocolPack where
  proxyProtocol := .tls
  standardPort := tlsPort
  findHost := TlsProtocolPack.findHost
  serverImpersonator := ⟨ServerImpersonatorTls.routeQueryFailureResponse,
    ServerImpersonatorTls.dnsResolutionFailureResponse, ServerImpersonatorTls.consumingWalletAbsent⟩

def fromProtocol : ProxyProtocol → ProtocolPack
  | .http => httpProtocolPack
  | .tls => tlsProtocolPack

def fromStandardPort (standardPort : UInt16) : Option ProtocolPack :=
  if standardPort = httpPort then some httpProtocolPack
  else if standardPort = tlsPort then some tlsProtocolPack
  else none

def fromIbcd (ibcd : InboundClientData) : Except String ProtocolPack :=
  match ibcd.receptionPort with
  | none =>
    .error (s!"No origin port specified with {ibcd.data.length}-byte non-clandestine packet: " ++
      toString ibcd.data)
  | some originPort =>
    match fromStandardPort originPort with
    | some pack => .ok pack
    | none =>
      .error (s!"No protocol associated with origin port {originPort} for {ibcd.data.length}-byte " ++
        "non-clandestine packet: " ++ toString ibcd.data)

/-- Only the search for a TLS host can fail, and it fails on a cut handshake. -/
lemma findHost_returns_iff_of_fromIbcd (packed : fromIbcd ibcd = .ok pack) (data) :
    (∃ host, pack.findHost data = .ok host) ↔
      ¬(ibcd.receptionPort = some tlsPort ∧ TlsProtocolPack.CutHandshake data) := by
  cases port : ibcd.receptionPort with
  | none => simp [fromIbcd, port] at packed
  | some originPort =>
    simp only [fromIbcd, port, fromStandardPort] at packed
    by_cases http : originPort = httpPort
    · rw [if_pos http] at packed
      cases packed
      have other : originPort ≠ tlsPort := by
        rw [http]
        decide
      simp [httpProtocolPack, other]
    · rw [if_neg http] at packed
      by_cases tls : originPort = tlsPort
      · rw [if_pos tls] at packed
        cases packed
        rw [tls]
        simp only [true_and]
        exact TlsProtocolPack.findHost_returns_iff data
      · rw [if_neg tls] at packed
        cases packed

end PulseMesh.ProxyServer
