import MockCluster.Index

/-!
A loaded document together with its index.

Changing the document leaves the index as it was; `Store.reindex` brings it up to date.
-/

namespace MockCluster

structure Store where
  source : String
  doc : Document
  index : Index

structure ParseFailure where
  source : String
  problem : Json.TextProblem
  deriving DecidableEq, Repr

def ParseFailure.message (failure : ParseFailure) : String :=
  "Failed to parse " ++ failure.source ++ ": " ++ failure.problem.message ++ " at line " ++
    toString failure.problem.place.line ++ ", column " ++ toString failure.problem.place.column

structure NotFound where
  role : Role
  id : String
  deriving DecidableEq, Repr

def NotFound.message (failure : NotFound) : String :=
  failure.role.name ++ " not found: " ++ failure.id

namespace Store

def of (source : String) (doc : Document) : Store := ⟨source, doc, Index.of doc⟩

def parse (source text : String) : Except ParseFailure Store :=
  match Document.parse text with
  | .ok doc => .ok (of source doc)
  | .error problem => .error ⟨source, problem⟩

theorem exists_of_parse {source text : String} {store : Store}
    (h : parse source text = .ok store) :
    ∃ doc, Document.parse text = .ok doc ∧ store = of source doc := by
  unfold parse at h
  split at h
  next doc hdoc =>
    cases h
    exact ⟨doc, hdoc, rfl⟩
  next => cases h

def modify (store : Store) (f : Document → Document) : Store :=
  { store with doc := f store.doc }

def reindex (store : Store) : Store :=
  { store with index := Index.of store.doc }

/-- The index describes the document as it is. -/
def IsFresh (store : Store) : Prop := store.index = Index.of store.doc

@[simp] theorem isFresh_of (source : String) (doc : Document) : (of source doc).IsFresh := rfl

@[simp] theorem isFresh_reindex (store : Store) : store.reindex.IsFresh := rfl

theorem IsFresh.eq_of {store : Store} (h : store.IsFresh) : store = of store.source store.doc := by
  obtain ⟨source, doc, index⟩ := store
  exact congrArg (mk source doc) h

def contains (store : Store) (role : Role) (id : String) : Bool :=
  store.index.contains role id

def resolve (store : Store) (role : Role) (id : String) : Except NotFound Entity :=
  match store.index.resolve store.doc role id with
  | some entity => .ok entity
  | none => .error ⟨role, id⟩

def resource (store : Store) (name : String) : Option Json :=
  store.doc.topLevel.get? name

end Store

end MockCluster
