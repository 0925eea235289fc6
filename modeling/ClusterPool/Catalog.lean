import ClusterPool.Cluster
import ClusterPool.Fault

/-! Where a pool learns which clusters and topics there are: a catalog that its owner keeps in
memory, or a document in a file that is read anew each time. -/
namespace ClusterPool

/-- What stands at the place of a file. -/
inductive Stored
  | nothing
  | directory
  | content (bytes : ByteArray)

instance : Inhabited Stored := ⟨.nothing⟩

/-- The two kinds of catalog. -/
inductive CatalogKind
  | memory (inventory : Inventory) (failing : Bool)
  | file (stored : Stored)

instance : Inhabited CatalogKind := ⟨.memory {} false⟩

structure Catalog where
  kind : CatalogKind
  /-- The backend was reported ready. -/
  ready : Bool := false
  deriving Inhabited

namespace Catalog

def inMemory (clusters : List Cluster) (topics : NameSet) : Catalog :=
  { kind := .memory { clusters, topics } false }

def inFile : Catalog := { kind := .file .nothing }

/-- The name under which messages show the file. -/
def path : String := "<file>"

/-- The text of a file. -/
def text : Stored → Except Fault String
  | .nothing => unreadable "No such file or directory (os error 2)"
  | .directory => unreadable "Is a directory (os error 21)"
  | .content bytes =>
    match String.fromUTF8? bytes with
    | some text => .ok text
    | none => unreadable "stream did not contain valid UTF-8"
where
  /-- The fault of a file that gives no text. -/
  unreadable (reason : String) : Except Fault String :=
    .error (.catalogUnavailable ("failed to read " ++ path ++ ": " ++ reason))

/-- Everything that the catalog announces now. -/
def fetch (catalog : Catalog) : Except Fault Inventory :=
  match catalog.kind with
  | .memory inventory failing =>
    if failing then .error (.catalogUnavailable "config manager unreachable") else .ok inventory
  | .file stored => do
    match Document.decode Inventory (← text stored) with
    | .ok inventory => .ok inventory
    | .error mistake => .error (.document mistake)

/-- Reading a file takes long enough for others to come in between. -/
def isSlow (catalog : Catalog) : Bool :=
  match catalog.kind with
  | .memory .. => false
  | .file _ => true

def markReady (catalog : Catalog) : Catalog := { catalog with ready := true }

/-- Changes what a catalog in memory announces. -/
def revise (catalog : Catalog) (change : Inventory → Inventory) : Catalog :=
  match catalog.kind with
  | .memory inventory failing => { catalog with kind := .memory (change inventory) failing }
  | .file _ => catalog

def setClusters (catalog : Catalog) (clusters : List Cluster) : Catalog :=
  catalog.revise fun inventory => { inventory with clusters }

def setTopics (catalog : Catalog) (topics : NameSet) : Catalog :=
  catalog.revise fun inventory => { inventory with topics }

/-- Lets every fetch from a catalog in memory fail, or no longer. -/
def setFailing (catalog : Catalog) (failing : Bool) : Catalog :=
  match catalog.kind with
  | .memory inventory _ => { catalog with kind := .memory inventory failing }
  | .file _ => catalog

/-- Replaces the file of a catalog that has one. -/
def store (catalog : Catalog) (stored : Stored) : Catalog :=
  match catalog.kind with
  | .memory .. => catalog
  | .file _ => { catalog with kind := .file stored }

end Catalog
end ClusterPool
