import AsmCheck.InstructionSet.Basic

/-! The instruction set that is used unless another one is loaded. -/

set_option autoImplicit false

namespace AsmCheck.InstructionSet

def bundledRegisters : List Described := [
  ⟨"EAX", "Accumulator register (general purpose)"⟩,
  ⟨"EBX", "Base register (general purpose)"⟩,
  ⟨"ECX", "Counter register (loop counter)"⟩,
  ⟨"EDX", "Data register (general purpose)"⟩,
  ⟨"ESI", "Source Index register (string operations)"⟩,
  ⟨"EDI", "Destination Index register (string operations)"⟩,
  ⟨"EBP", "Base Pointer register (stack frame)"⟩,
  ⟨"ESP", "Stack Pointer register"⟩,
  ⟨"AL", "Low byte of EAX (bits 0-7) - 8-bit register"⟩,
  ⟨"AH", "High byte of EAX (bits 8-15) - 8-bit register"⟩,
  ⟨"BL", "Low byte of EBX (bits 0-7) - 8-bit register"⟩,
  ⟨"BH", "High byte of EBX (bits 8-15) - 8-bit register"⟩,
  ⟨"CL", "Low byte of ECX (bits 0-7) - 8-bit register"⟩,
  ⟨"CH", "High byte of ECX (bits 8-15) - 8-bit register"⟩,
  ⟨"DL", "Low byte of EDX (bits 0-7) - 8-bit register"⟩,
  ⟨"DH", "High byte of EDX (bits 8-15) - 8-bit register"⟩]

def bundledFlags : List Described := [
  ⟨"Z", "Zero flag - Set when result is zero"⟩,
  ⟨"C", "Carry flag - Set when arithmetic carry/borrow occurs"⟩,
  ⟨"O", "Overflow flag - Set when signed overflow occurs"⟩,
  ⟨"S", "Sign flag - Set when result is negative"⟩]

def bundledOperations : List Operation := [
  ⟨"MOV", "Move data between registers or memory", "MOV destination, source",
    .exactly 2, false, [], "MOV EAX, EBX  ; Copy EBX to EAX", 1⟩,
  ⟨"XCHG", "Exchange values between two registers", "XCHG register1, register2",
    .exactly 2, false, [], "XCHG EAX, EBX  ; Swap EAX and EBX", 1⟩,
  ⟨"LEA", "Load effective address", "LEA destination, source",
    .exactly 2, false, [], "LEA EAX, [EBX+4]  ; EAX = EBX + 4", 1⟩,
  ⟨"MOVZX", "Move with zero extension", "MOVZX destination, source",
    .exactly 2, false, [], "MOVZX EAX, AL  ; Zero-extend AL to EAX", 1⟩,
  ⟨"MOVSX", "Move with sign extension", "MOVSX destination, source",
    .exactly 2, false, [], "MOVSX EAX, AL  ; Sign-extend AL to EAX", 1⟩,
  ⟨"ADD", "Add two values and store result in destination", "ADD destination, source",
    .exactly 2, false, ["Z", "C", "O", "S"], "ADD EAX, EBX  ; EAX = EAX + EBX", 1⟩,
  ⟨"SUB", "Subtract source from destination", "SUB destination, source",
    .exactly 2, false, ["Z", "C", "O", "S"], "SUB EAX, EBX  ; EAX = EAX - EBX", 1⟩,
  ⟨"AND", "Bitwise AND two values", "AND destination, source",
    .exactly 2, false, ["Z", "S"], "AND EAX, EBX  ; EAX = EAX & EBX", 1⟩,
  ⟨"OR", "Bitwise OR two values", "OR destination, source",
    .exactly 2, false, ["Z", "S"], "OR EAX, EBX  ; EAX = EAX | EBX", 1⟩,
  ⟨"XOR", "Bitwise XOR two values", "XOR destination, source",
    .exactly 2, false, ["Z", "S"], "XOR EAX, EBX  ; EAX = EAX ^ EBX", 1⟩,
  ⟨"NOT", "Bitwise NOT (one's complement)", "NOT register",
    .exactly 1, false, [], "NOT EAX  ; EAX = ~EAX", 1⟩,
  ⟨"SHL", "Logical shift left", "SHL destination, count",
    .exactly 2, false, ["Z", "C", "O", "S"], "SHL EAX, 1  ; EAX <<= 1", 1⟩,
  ⟨"SHR", "Logical shift right", "SHR destination, count",
    .exactly 2, false, ["Z", "C", "O", "S"], "SHR EAX, 1  ; EAX >>= 1", 1⟩,
  ⟨"SAR", "Arithmetic shift right", "SAR destination, count",
    .exactly 2, false, ["Z", "C", "O", "S"], "SAR EAX, 1  ; EAX >>= 1 (arith)", 1⟩,
  ⟨"ROL", "Rotate left", "ROL destination, count",
    .exactly 2, false, ["C", "O"], "ROL EAX, 1  ; rotate left", 1⟩,
  ⟨"ROR", "Rotate right", "ROR destination, count",
    .exactly 2, false, ["C", "O"], "ROR EAX, 1  ; rotate right", 1⟩,
  ⟨"RCL", "Rotate left through carry", "RCL destination, count",
    .exactly 2, false, ["C", "O"], "RCL EAX, 1  ; rotate left through C", 1⟩,
  ⟨"RCR", "Rotate right through carry", "RCR destination, count",
    .exactly 2, false, ["C", "O"], "RCR EAX, 1  ; rotate right through C", 1⟩,
  ⟨"MUL", "Unsigned multiply (EAX *= source)", "MUL source",
    .exactly 1, false, ["Z", "C", "O", "S"], "MUL EBX  ; EAX = EAX * EBX", 2⟩,
  ⟨"IMUL", "Signed multiply", "IMUL source | IMUL dest, source | IMUL dest, source, imm",
    .between 1 3, false, ["Z", "C", "O", "S"], "IMUL EBX  ; EAX = EAX * EBX (signed)", 2⟩,
  ⟨"DIV", "Unsigned divide (EAX /= source)", "DIV source",
    .exactly 1, false, ["Z", "C", "O", "S"], "DIV EBX  ; EAX = EAX / EBX", 2⟩,
  ⟨"IDIV", "Signed divide (EAX /= source)", "IDIV source",
    .exactly 1, false, ["Z", "C", "O", "S"], "IDIV EBX  ; EAX = EAX / EBX (signed)", 2⟩,
  ⟨"MOD", "Modulo operation (dest = dest % src)", "MOD destination, source",
    .exactly 2, false, ["Z", "S"], "MOD EAX, 64  ; EAX = EAX % 64", 1⟩,
  ⟨"CMP", "Compare two values (SUB without storing result)", "CMP destination, source",
    .exactly 2, false, ["Z", "C", "O", "S"], "CMP EAX, 0  ; Compare EAX with 0", 1⟩,
  ⟨"TEST", "Logical AND without storing result (sets flags only)", "TEST destination, source",
    .exactly 2, false, ["Z", "S"], "TEST EAX, EAX  ; Check if EAX is zero", 1⟩,
  ⟨"INC", "Increment by 1", "INC register",
    .exactly 1, false, ["Z", "O", "S"], "INC EAX  ; EAX = EAX + 1", 1⟩,
  ⟨"DEC", "Decrement by 1", "DEC register",
    .exactly 1, false, ["Z", "O", "S"], "DEC ECX  ; ECX = ECX - 1", 1⟩,
  ⟨"NEG", "Two's complement negation", "NEG register",
    .exactly 1, false, ["Z", "C", "O", "S"], "NEG EAX  ; EAX = -EAX", 1⟩,
  ⟨"XADD", "Exchange and add", "XADD destination, source",
    .exactly 2, false, ["Z", "C", "O", "S"], "XADD EAX, EBX  ; EBX = EAX, EAX = EAX + old EBX", 1⟩,
  ⟨"BSF", "Bit scan forward", "BSF destination, source",
    .exactly 2, false, ["Z"], "BSF EAX, EBX  ; index of lowest set bit", 1⟩,
  ⟨"BSR", "Bit scan reverse", "BSR destination, source",
    .exactly 2, false, ["Z"], "BSR EAX, EBX  ; index of highest set bit", 1⟩,
  ⟨"BSWAP", "Reverse byte order", "BSWAP register",
    .exactly 1, false, [], "BSWAP EAX", 1⟩,
  ⟨"CMOVE", "Move if equal", "CMOVE destination, source",
    .exactly 2, false, [], "CMOVE EAX, EBX", 1⟩,
  ⟨"CMOVZ", "Move if zero", "CMOVZ destination, source",
    .exactly 2, false, [], "CMOVZ EAX, EBX", 1⟩,
  ⟨"CMOVNE", "Move if not equal", "CMOVNE destination, source",
    .exactly 2, false, [], "CMOVNE EAX, EBX", 1⟩,
  ⟨"CMOVNZ", "Move if not zero", "CMOVNZ destination, source",
    .exactly 2, false, [], "CMOVNZ EAX, EBX", 1⟩,
  ⟨"CMOVL", "Move if less (signed)", "CMOVL destination, source",
    .exactly 2, false, [], "CMOVL EAX, EBX", 1⟩,
  ⟨"CMOVLE", "Move if less or equal (signed)", "CMOVLE destination, source",
    .exactly 2, false, [], "CMOVLE EAX, EBX", 1⟩,
  ⟨"CMOVG", "Move if greater (signed)", "CMOVG destination, source",
    .exactly 2, false, [], "CMOVG EAX, EBX", 1⟩,
  ⟨"CMOVGE", "Move if greater or equal (signed)", "CMOVGE destination, source",
    .exactly 2, false, [], "CMOVGE EAX, EBX", 1⟩,
  ⟨"CMOVA", "Move if above (unsigned)", "CMOVA destination, source",
    .exactly 2, false, [], "CMOVA EAX, EBX", 1⟩,
  ⟨"CMOVAE", "Move if above or equal (unsigned)", "CMOVAE destination, source",
    .exactly 2, false, [], "CMOVAE EAX, EBX", 1⟩,
  ⟨"CMOVB", "Move if below (unsigned)", "CMOVB destination, source",
    .exactly 2, false, [], "CMOVB EAX, EBX", 1⟩,
  ⟨"CMOVBE", "Move if below or equal (unsigned)", "CMOVBE destination, source",
    .exactly 2, false, [], "CMOVBE EAX, EBX", 1⟩,
  ⟨"CMOVS", "Move if sign", "CMOVS destination, source",
    .exactly 2, false, [], "CMOVS EAX, EBX", 1⟩,
  ⟨"CMOVNS", "Move if not sign", "CMOVNS destination, source",
    .exactly 2, false, [], "CMOVNS EAX, EBX", 1⟩,
  ⟨"JMP", "Unconditional jump to label or address", "JMP label",
    .exactly 1, true, [], "JMP main_loop", 1⟩,
  ⟨"JZ", "Jump if zero flag is set (equal)", "JZ label",
    .exactly 1, true, [], "JZ zero_handler  ; Jump if Z=1", 1⟩,
  ⟨"JE", "Jump if equal (alias for JZ)", "JE label",
    .exactly 1, true, [], "JE equal_handler  ; Jump if Z=1", 1⟩,
  ⟨"JNZ", "Jump if not zero (not equal)", "JNZ label",
    .exactly 1, true, [], "JNZ non_zero  ; Jump if Z=0", 1⟩,
  ⟨"JNE", "Jump if not equal (alias for JNZ)", "JNE label",
    .exactly 1, true, [], "JNE not_equal  ; Jump if Z=0", 1⟩,
  ⟨"JG", "Jump if greater (signed)", "JG label",
    .exactly 1, true, [], "JG bigger", 1⟩,
  ⟨"JGE", "Jump if greater or equal (signed)", "JGE label",
    .exactly 1, true, [], "JGE not_smaller", 1⟩,
  ⟨"JL", "Jump if less (signed)", "JL label",
    .exactly 1, true, [], "JL smaller", 1⟩,
  ⟨"JLE", "Jump if less or equal (signed)", "JLE label",
    .exactly 1, true, [], "JLE not_bigger", 1⟩,
  ⟨"JS", "Jump if sign flag is set", "JS label",
    .exactly 1, true, [], "JS negative", 1⟩,
  ⟨"JNS", "Jump if sign flag is clear", "JNS label",
    .exactly 1, true, [], "JNS positive", 1⟩,
  ⟨"JA", "Jump if above (unsigned)", "JA label",
    .exactly 1, true, [], "JA above", 1⟩,
  ⟨"JAE", "Jump if above or equal (unsigned)", "JAE label",
    .exactly 1, true, [], "JAE not_below", 1⟩,
  ⟨"JB", "Jump if below (unsigned)", "JB label",
    .exactly 1, true, [], "JB below", 1⟩,
  ⟨"JBE", "Jump if below or equal (unsigned)", "JBE label",
    .exactly 1, true, [], "JBE not_above", 1⟩,
  ⟨"LOOP", "Decrement ECX and jump if not zero", "LOOP label",
    .exactly 1, true, [], "LOOP again", 1⟩,
  ⟨"LOOPE", "Decrement ECX and jump if not zero and Z=1", "LOOPE label",
    .exactly 1, true, [], "LOOPE again", 1⟩,
  ⟨"LOOPZ", "Decrement ECX and jump if not zero and Z=1", "LOOPZ label",
    .exactly 1, true, [], "LOOPZ again", 1⟩,
  ⟨"LOOPNE", "Decrement ECX and jump if not zero and Z=0", "LOOPNE label",
    .exactly 1, true, [], "LOOPNE again", 1⟩,
  ⟨"LOOPNZ", "Decrement ECX and jump if not zero and Z=0", "LOOPNZ label",
    .exactly 1, true, [], "LOOPNZ again", 1⟩,
  ⟨"CALL", "Call subroutine - push return address and jump to label", "CALL label",
    .exactly 1, true, [], "CALL my_function  ; Call function", 2⟩,
  ⟨"RET", "Return from subroutine - pop return address and jump", "RET",
    .exactly 0, false, [], "RET  ; Return to caller", 2⟩,
  ⟨"PUSH", "Push value onto stack", "PUSH register",
    .exactly 1, false, [], "PUSH EAX  ; Save EAX on stack", 1⟩,
  ⟨"POP", "Pop from stack into register", "POP register",
    .exactly 1, false, [], "POP EAX  ; Restore EAX from stack", 1⟩,
  ⟨"HLT", "Halt execution", "HLT",
    .exactly 0, false, [], "HLT  ; Stop program", 1⟩,
  ⟨"NOP", "No operation", "NOP",
    .exactly 0, false, [], "NOP", 1⟩,
  ⟨"RAND", "Generate random number from 0 to max-1", "RAND destination[, max]",
    .between 1 2, false, ["Z", "S"], "RAND EAX, 64  ; EAX = random(0..63)", 1⟩,
  ⟨"INT", "Software interrupt - call interrupt handler", "INT interrupt_number",
    .exactly 1, false, [], "INT 0x10  ; Call BIOS video interrupt", 2⟩,
  ⟨"INT3", "Breakpoint interrupt", "INT3",
    .exactly 0, false, [], "INT3  ; Pause in the debugger", 1⟩,
  ⟨"IRET", "Return from interrupt handler", "IRET",
    .exactly 0, false, ["Z", "C", "O", "S"], "IRET  ; Return from interrupt", 2⟩,
  ⟨"LAHF", "Load flags into AH", "LAHF",
    .exactly 0, false, [], "LAHF", 1⟩,
  ⟨"SAHF", "Store AH into flags", "SAHF",
    .exactly 0, false, ["Z", "C", "S"], "SAHF", 1⟩,
  ⟨"LODSB", "Load byte at [ESI] into AL, advance ESI", "LODSB",
    .exactly 0, false, [], "LODSB", 1⟩,
  ⟨"LODS", "Load dword at [ESI] into EAX, advance ESI", "LODS",
    .exactly 0, false, [], "LODS", 1⟩,
  ⟨"STOSB", "Store AL at [EDI], advance EDI", "STOSB",
    .exactly 0, false, [], "STOSB", 1⟩,
  ⟨"STOS", "Store EAX at [EDI], advance EDI", "STOS",
    .exactly 0, false, [], "STOS", 1⟩,
  ⟨"MOVSB", "Copy byte from [ESI] to [EDI]", "MOVSB",
    .exactly 0, false, [], "MOVSB", 1⟩,
  ⟨"MOVS", "Copy dword from [ESI] to [EDI]", "MOVS",
    .exactly 0, false, [], "MOVS", 1⟩,
  ⟨"SCASB", "Compare AL with byte at [EDI]", "SCASB",
    .exactly 0, false, ["Z", "C", "O", "S"], "SCASB", 1⟩,
  ⟨"SCAS", "Compare EAX with dword at [EDI]", "SCAS",
    .exactly 0, false, ["Z", "C", "O", "S"], "SCAS", 1⟩,
  ⟨"CMPSB", "Compare byte at [ESI] with byte at [EDI]", "CMPSB",
    .exactly 0, false, ["Z", "C", "O", "S"], "CMPSB", 1⟩,
  ⟨"CMPS", "Compare dword at [ESI] with dword at [EDI]", "CMPS",
    .exactly 0, false, ["Z", "C", "O", "S"], "CMPS", 1⟩]

def bundled : InstructionSet where
  version := .int 1
  name := "Educational x86 (32-bit, flat)"
  description := "Default mnemonic table for the teaching instruction set."
  registers := bundledRegisters
  flags := bundledFlags
  operations := bundledOperations

end AsmCheck.InstructionSet
