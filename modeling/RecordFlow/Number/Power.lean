/-!
# Powers

Powers with natural exponents are those of the core library in every module, whatever else the
module imports: the numbers that are computed with are the ones that are reasoned about.
-/

attribute [instance (2000), default_instance 20000] instPowNat
