import SitePreview.Database.Connection
import SitePreview.Tree.Workspace

/-! Engines: how a database is reached. A database in memory lives in its only connection; all
others have a pool of connections. The directory of a database file is made where it is missing. -/

namespace SitePreview.Database

/-! ### Drivers

A driver speaks to a kind of database. The scheme of an address names the kind and, behind a plus
sign, the driver; each kind has a driver that need not be named. -/

/-- A driver by the kind of database it speaks to, its name, and the library that it needs. -/
structure Driver where
  kind : Text
  name : Text
  library : Text
deriving DecidableEq

/-- The name of the driver that is meant if none is. -/
def plainDriver : Text := "base"

/-- The drivers of one kind by name and library. -/
def driversOf (kind : Text) (names : List (Text × Text)) : List Driver :=
  names.map fun (name, library) => ⟨kind, name, library⟩

/-- The drivers of the databases of one family. -/
def familyDrivers : List (Text × Text) :=
  [(plainDriver, "MySQLdb"), ("mysqldb", "MySQLdb"), ("aiomysql", "aiomysql"),
    ("asyncmy", "asyncmy"), ("cymysql", "cymysql"), ("mariadbconnector", "mariadb"),
    ("mysqlconnector", "mysql"), ("pymysql", "pymysql"), ("pyodbc", "pyodbc")]

def drivers : List Driver :=
  driversOf "postgresql" [(plainDriver, "psycopg"), ("psycopg", "psycopg"),
    ("psycopg_async", "psycopg"), ("psycopg2", "psycopg2"), ("psycopg2cffi", "psycopg2cffi"),
    ("pg8000", "pg8000"), ("asyncpg", "asyncpg")] ++
  driversOf "mysql" familyDrivers ++ driversOf "mariadb" familyDrivers ++
  driversOf "oracle" [(plainDriver, "oracledb"), ("oracledb", "oracledb"),
    ("oracledb_async", "oracledb"), ("cx_oracle", "cx_Oracle")] ++
  driversOf "mssql" [(plainDriver, "pyodbc"), ("pyodbc", "pyodbc"), ("pymssql", "pymssql"),
    ("aioodbc", "aioodbc"), ("mssqlpython", "mssql_python")]

/-- The libraries that are there. -/
def libraries : List Text := ["asyncpg"]

/-- Why there is no driver for a scheme: it is not known, its library is not there, or the scheme
has too many parts. -/
inductive DriverFault
  | unknown (group name : Text)
  | noLibrary (name : Text)
  | manyParts
deriving DecidableEq

namespace DriverFault

def message : DriverFault → Text
  | unknown group name => "Can't load plugin: sqlalchemy." ++ group ++ ":" ++ name
  | noLibrary name => "No module named '" ++ name ++ "'"
  | manyParts => "too many values to unpack (expected 2)"

end DriverFault

def Driver.ofScheme (scheme : Text) : Except DriverFault Driver :=
  let parts := scheme.splitOn '+'
  let find (kind name : Text) : Except DriverFault Driver :=
    match drivers.find? fun d => d.kind = kind && d.name = name with
    | none => .error (.unknown "dialects" (Text.join "." parts))
    | some d => if libraries.contains d.library then .ok d else .error (.noLibrary d.library)
  match parts with
  | [kind] => find kind plainDriver
  | [kind, name] => find kind name
  | _ => .error .manyParts

/-! ### Connecting -/

inductive Pool
  | single
  | queue
deriving DecidableEq

/-- An engine: the address it connects to, its pool, and for a server the size of the pool and how
many connections it may have beyond. -/
structure Engine where
  address : Address
  pool : Pool
  limits : Option (Int × Int) := none

inductive EngineError
  | address (fault : AddressFault)
  | driver (fault : DriverFault)
  | options (fault : OptionFault)
  | nulInPath
  | tree (e : TreeError)

namespace EngineError

def message : EngineError → Text
  | address .form => "Could not parse SQLAlchemy URL from given URL string"
  | address (.port fault) => fault.message
  | driver fault => fault.message
  | options fault => fault.message
  | nulInPath => "embedded null byte"
  | tree e => e.message

/-- The error is one of the address as such, of which users are told. -/
def isRefusal : EngineError → Bool
  | address .form | driver (.unknown _ _) | tree _ => true
  | options fault =>
    match fault with
    | .mixedHosts | .ports _ | .counts | .noHost | .noPort => true
    | _ => false
  | _ => false

end EngineError

/-- The path of the database file in an address: what follows the first three slashes in a row. -/
def filePath (url : Text) : Text :=
  match url with
  | [] => []
  | c :: s =>
    match Text.after? "///" (c :: s) with
    | some path => path
    | none => filePath s

/-- The address of a database in memory. -/
def memoryAddress : Address := { scheme := "sqlite+aiosqlite" }

/-- The connections to the database share a single one. -/
def Address.isShared (a : Address) : Bool :=
  a.database.getD [] = [] || a.database = some ":memory:" ||
    a.values "mode" = [("memory" : Text)]

/-- The address without the options that name plugins, none of which is known. -/
def withoutPlugins (a : Address) : Except DriverFault Address :=
  match a.values "plugin" with
  | [] => .ok { a with options := a.options.filter fun o => o.1 ≠ ("plugins" : Text) }
  | name :: _ => .error (.unknown "plugins" name)

/-- The workspace with the directory of a file made. -/
def makeDirectoryOf (file : Text) (w : Workspace) : Except EngineError Workspace :=
  let path := Path.ofText file
  if path.directories.any fun s => s.contains '\x00' then .error .nulInPath
  else ((w.makeParents path).mapError .tree).map Prod.snd

/-- The engine for a database file, and the workspace with the directory for it. -/
def openFile (file : Text) (w : Workspace) : Except EngineError (Engine × Workspace) := do
  if file = [] || file = ":memory:" then
    return ({ address := memoryAddress, pool := .single }, w)
  let w ← makeDirectoryOf file w
  let a ← (Address.parse ("sqlite+aiosqlite:///" ++ file)).mapError .address
  let a ← (withoutPlugins a).mapError .driver
  a.checkFileOptions.mapError .options
  return ({ address := a, pool := if a.isShared then .single else .queue }, w)

/-- The engine for a database server. -/
def openServer (url : Text) (poolSize overflow : Int) : Except EngineError Engine := do
  let a ← (Address.parse url).mapError .address
  let a ← (withoutPlugins a).mapError .driver
  let _ ← (Driver.ofScheme a.scheme).mapError .driver
  a.checkServerOptions.mapError .options
  return { address := a, pool := .queue, limits := some (poolSize, overflow) }

/-- The engine for an address, and the workspace with what it needs. -/
def openEngine (url : Text) (poolSize overflow : Int) (w : Workspace) :
    Except EngineError (Engine × Workspace) :=
  if url.startsWith "sqlite" then openFile (filePath url) w
  else (openServer url poolSize overflow).map fun e => (e, w)

end SitePreview.Database
