set_option autoImplicit false

/-! Powers are those of the core library, in modules that see other instances of them as well. -/

attribute [instance (2000)] instPowNat
attribute [default_instance (20000)] instPowNat
