import LuaXENetwork.LuaStack

/-! What each call of the C API does to a stack that has room for it. -/

namespace LuaXENetwork.OnStack
open Library

variable {s : LuaStack}

theorem run_exchange (gone values : List LuaValue) (there : gone.length ≤ s.free)
    (room : values.length ≤ s.free) :
    (exchange gone.length values).run (s.onTop gone) = (.ok (), s.onTop values) :=
  Program.run_stepOr (Stack.exchange_onTop there room)

theorem run_push (room : 0 < s.free) (value : LuaValue) : (push value).run s = (.ok (), s.onTop [value]) := by
  have pushed := run_exchange (s := s) [] [value] (Nat.zero_le _) room
  rwa [Stack.onTop_nil] at pushed

theorem run_pop (gone : List LuaValue) (there : gone.length ≤ s.free) :
    (pop gone.length).run (s.onTop gone) = (.ok (), s) := by
  have popped := run_exchange gone [] there (Nat.zero_le _)
  rwa [Stack.onTop_nil] at popped

theorem run_pop_one (room : 0 < s.free) (value : LuaValue) : (pop 1).run (s.onTop [value]) = (.ok (), s) :=
  run_pop [value] room

theorem run_valueAt (value : LuaValue) (above : List LuaValue) :
    (valueAt (.negSucc above.length)).run (s.onTop (value :: above)) = (.ok value, s.onTop (value :: above)) :=
  Program.run_readOr (Stack.slot_onTop value above)

theorem run_valueAt_top (value : LuaValue) :
    (valueAt (-1)).run (s.onTop [value]) = (.ok value, s.onTop [value]) := run_valueAt value []

theorem run_insert (args : List LuaValue) (moved : LuaValue) :
    (insert (-1 - args.length)).run (s.onTop (args ++ [moved])) = (.ok (), s.onTop (moved :: args)) := by
  have index : (-1 - args.length : Int) = .negSucc args.length := by
    rw [Int.negSucc_eq]
    omega
  rw [index]
  exact Program.run_stepOr (Stack.insert_onTop moved)

theorem run_tableAt {index : Int} {table : LuaTable} (found : s.slot index = some (.table table)) :
    (tableAt index).run s = (.ok table, s) := by
  have read : (valueAt index).run s = (.ok (.table table), s) := Program.run_readOr found
  unfold tableAt
  rw [Program.run_bind_ok read]
  rfl

theorem run_getField {index : Int} {table : LuaTable} (found : s.slot index = some (.table table))
    (room : 0 < s.free) (field : LuaTable → LuaValue) :
    (getField index field).run s = (.ok (), s.onTop [field table]) :=
  (Program.run_bind_ok (run_tableAt found)).trans (run_push room _)

/-- The table below the top takes the value in. -/
theorem run_store (room : 1 < s.free) (key : LuaKey) (table : LuaTable) (value : LuaValue) :
    (store (-2) key).run (s.onTop [.table table, value]) =
      (.ok (), s.onTop [.table (Assoc.store key value table)]) := by
  have found : (s.onTop [.table table, value]).slot (-2) = some (.table table) :=
    Stack.slot_onTop (.table table) [value]
  have top : (valueAt (-1)).run (s.onTop [.table table, value]) =
      (.ok value, s.onTop [.table table, value]) := by
    have := run_valueAt_top (s := s.onTop [.table table]) value
    rwa [Stack.onTop_onTop] at this
  have replaced : (s.onTop [.table table, value]).replace (-2) (.table (Assoc.store key value table)) =
      some (s.onTop [.table (Assoc.store key value table), value]) :=
    Stack.replace_onTop (.table table) _ [value]
  have popped := run_pop_one (s := s.onTop [.table (Assoc.store key value table)])
    (Nat.sub_pos_of_lt room) value
  rw [Stack.onTop_onTop] at popped
  unfold store
  rw [Program.run_bind_ok (run_tableAt found), Program.run_bind_ok top,
    Program.run_bind_ok (Program.run_stepOr replaced)]
  exact popped

theorem run_setField (room : 1 < s.free) (key : Bytes) (table : LuaTable) (value : LuaValue) :
    (setField (-2) key).run (s.onTop [.table table, value]) =
      (.ok (), s.onTop [.table (table.setField key value)]) :=
  run_store room _ _ _

/-- A value is pushed and stored in the table that was on top. -/
theorem run_push_store (room : 1 < s.free) (key : LuaKey) (table : LuaTable) (value : LuaValue) :
    (push value >>= fun _ => store (-2) key).run (s.onTop [.table table]) =
      (.ok (), s.onTop [.table (Assoc.store key value table)]) := by
  have pushed := run_push (s := s.onTop [.table table]) (Nat.sub_pos_of_lt room) value
  rw [Stack.onTop_onTop] at pushed
  rw [Program.run_bind_ok pushed]
  exact run_store room key table value

theorem length_setTop (values : List LuaValue) (top : Nat) : (setTop values top).length = top := by
  simp only [setTop, List.length_append, List.length_take, List.length_replicate]
  omega

theorem run_pcall_returned {args : List LuaValue} (there : args.length < s.free) (function : LuaValue)
    (values : List LuaValue) {results : Nat} (room : results ≤ s.free) :
    (pcall args.length results (.returned values)).run (s.onTop (function :: args)) =
      (.ok true, s.onTop (setTop values results)) := by
  refine Program.run_bind_ok (run_exchange (function :: args) _ there ?_)
  rwa [length_setTop]

theorem run_pcall_raised {args : List LuaValue} (there : args.length < s.free) (function error : LuaValue)
    (results : Nat) :
    (pcall args.length results (.raised error)).run (s.onTop (function :: args)) =
      (.ok false, s.onTop [error]) :=
  Program.run_bind_ok (run_exchange (function :: args) [error] there (Nat.zero_lt_of_lt there))

end LuaXENetwork.OnStack
