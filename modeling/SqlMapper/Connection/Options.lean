import SqlMapper.Connection.Fault
import SqlMapper.Log
import SqlMapper.Text.Truncated

/-!
# Connection options

What an address says about a connection: where the server is, who connects, which database is used, how many
connections a pool holds, and settings of the driver. An address is read from left to right; the size of the pool is
checked before the rest of the address.
-/

namespace SqlMapper

/-- How connections to a server are opened. -/
structure ConnectionOptions where
  poolMin : Nat
  poolMax : Nat
  /-- Without it every change runs in a transaction of its own. -/
  autocommit : Bool
  host : String
  port : Nat
  user : Option String
  password : Option String
  database : Option String
  prefersSocket : Bool
  compresses : Bool
  statementCacheSize : Nat
deriving DecidableEq, Repr

namespace ConnectionOptions

/-- The fewest connections of a pool when nothing is said. -/
def defaultPoolMin : Nat := 1

/-- The most connections of a pool when nothing is said. -/
def defaultPoolMax : Nat := 10

/-- The port of a server when nothing is said. -/
def defaultPort : Nat := 3306

/-- The number of prepared statements that a connection keeps when nothing is said. -/
def defaultStatementCacheSize : Nat := 32

/-- What the address says about the pool; the other settings are kept for the driver. -/
structure PoolSettings where
  poolMin : Nat := defaultPoolMin
  poolMax : Nat := defaultPoolMax
  autocommit : Bool := true
  others : List (String × String) := []

/-- A number of connections. -/
def readCount (name text : String) : Result Nat :=
  match Number.readSize (Nat.pow 2 64) (Text.Utf8.encode text) with
  | .ok n => .ok n
  | .error fault => .error ((ConnectionFault.digits fault).error.within (ConnectionFault.size name text).message)

/-- A truth value in one of its spellings. -/
def readSwitch (name text : String) : Result Bool :=
  if ["1", "true", "yes", "on"].contains text.toLower then .ok true
  else if ["0", "false", "no", "off"].contains text.toLower then .ok false
  else .error (ConnectionFault.boolean name text).error

/-- Takes up one setting. -/
def takeSetting (s : PoolSettings) (name text : String) : Result PoolSettings :=
  if name = "pool_min" then do return { s with poolMin := ← readCount name text }
  else if name = "pool_max" then do return { s with poolMax := ← readCount name text }
  else if name = "autocommit" then do return { s with autocommit := ← readSwitch name text }
  else .ok { s with others := s.others ++ [(name, text)] }

/-- Takes up settings from left to right. -/
def takeSettings (s : PoolSettings) : List (String × String) → Result PoolSettings
  | [] => .ok s
  | (name, text) :: rest => do takeSettings (← takeSetting s name text) rest

/-- Settings of the driver that are numbers of up to 64 bits. -/
def wideNumbers : List String :=
  ["inactive_connection_ttl", "ttl_check_interval", "conn_ttl", "abs_conn_ttl", "abs_conn_ttl_jitter",
    "max_allowed_packet", "wait_timeout", "stmt_cache_size"]

/-- Settings of the driver that are numbers of up to 32 bits. -/
def narrowNumbers : List String := ["tcp_keepalive", "tcp_user_timeout_ms"]

/-- Settings of the driver that are truth values. -/
def switches : List String :=
  ["enable_cleartext_plugin", "reset_connection", "tcp_nodelay", "prefer_socket", "secure_auth", "client_found_rows",
    "require_ssl", "verify_ca", "verify_identity", "built_in_roots"]

/-- The driver knows a level of compression with this name. -/
def isCompression (text : String) : Bool :=
  ["fast", "on", "true", "best"].contains text || (text.length = 1 && text.all Char.isDigit)

/-- The number that a setting of the driver gives. -/
def numberSetting (bound : Nat) (name text : String) : Result Nat :=
  match Number.readSize bound (Text.Utf8.encode text) with
  | .ok n => .ok n
  | .error _ => .error (ConnectionFault.parameterValue name text).error

/-- The truth value that a setting of the driver gives. -/
def switchSetting (name text : String) : Result Bool :=
  if text = "true" then .ok true
  else if text = "false" then .ok false
  else .error (ConnectionFault.parameterValue name text).error

/-- Takes up one setting of the driver. -/
def takeDriverSetting (o : ConnectionOptions) (name text : String) : Result ConnectionOptions :=
  if wideNumbers.contains name then do
    let n ← numberSetting (Nat.pow 2 64) name text
    return if name = "stmt_cache_size" then { o with statementCacheSize := n } else o
  else if narrowNumbers.contains name then do
    let _ ← numberSetting (Nat.pow 2 32) name text
    return o
  else if switches.contains name then do
    let b ← switchSetting name text
    return if name = "prefer_socket" then { o with prefersSocket := b } else o
  else if name = "compression" then
    if isCompression text then .ok { o with compresses := true }
    else .error (ConnectionFault.parameterValue name text).error
  else if name = "socket" then .ok o
  else .error (ConnectionFault.unknownParameter name).error

/-- Takes up settings of the driver from left to right. -/
def takeDriverSettings (o : ConnectionOptions) : List (String × String) → Result ConnectionOptions
  | [] => .ok o
  | (name, text) :: rest => do (← o.takeDriverSetting name text).takeDriverSettings rest

/-- A text that is there and not empty. -/
def nonempty (s : String) : Option String := if s.isEmpty then none else some s

/-- The options that the parts of an address give. -/
def ofParts (url : Url) : Result ConnectionOptions := do
  if url.scheme ≠ "mysql" then .error (ConnectionFault.scheme url.scheme).error
  let s ← takeSettings {} ((url.query.map Text.Percent.formPairs).getD [])
  if s.poolMax < s.poolMin || s.poolMax = 0 then .error (ConnectionFault.poolSize s.poolMin s.poolMax).error
  match url.host with
  | none => .error ConnectionFault.incompleteUrl.error
  | some host =>
    takeDriverSettings
      { poolMin := s.poolMin, poolMax := s.poolMax, autocommit := s.autocommit, host := host
        port := url.port.getD defaultPort, user := nonempty (Text.Percent.decode url.username)
        password := url.password.map Text.Percent.decode
        database := (url.segments.head?.map Text.Percent.decode).bind nonempty
        prefersSocket := true, compresses := false, statementCacheSize := defaultStatementCacheSize } s.others

/-- The options that an address gives. -/
def ofUrl (address : String) : Result ConnectionOptions :=
  (match Url.read address with
    | .ok url => ofParts url
    | .error fault => .error (ConnectionFault.url fault).error).mapError
    (Error.within s!"While reading the connection url \x60{Text.truncated address}\x60")

/-- The line that opening a pool leaves in the log. -/
def openingLog (o : ConnectionOptions) : Log :=
  [.debug s!"Opening a MySQL pool of {Nat.repr o.poolMin}..={Nat.repr o.poolMax} connections"]

end ConnectionOptions

end SqlMapper
